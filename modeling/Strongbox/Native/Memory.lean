import Strongbox.Native.Store
/-! A native store that lives as long as the program. It may be switched to failing, and then keeps
its blobs but answers nothing. -/
namespace Strongbox

structure MemoryStore where
  entries : List (NativeKey × String)
  failing : Bool
  deriving DecidableEq, Repr

namespace MemoryStore

def empty : MemoryStore := ⟨[], false⟩

def lookup (key : NativeKey) (m : MemoryStore) : Option String :=
  (m.entries.find? (·.1 == key)).map (·.2)

def without (key : NativeKey) (m : MemoryStore) : MemoryStore :=
  { m with entries := m.entries.filter (·.1 != key) }

def bind (key : NativeKey) (blob : String) (m : MemoryStore) : MemoryStore :=
  { m with entries := (key, blob) :: (m.without key).entries }

def guarded {α : Type} (call : MemoryStore → α × MemoryStore) : StoreCall MemoryStore α := fun m =>
  if m.failing then .error (.unavailable "in-memory store switched to failing") m
  else
    let (a, m) := call m
    .ok a m

/-- Whether it passes for secure is settled when it is made. -/
def native (secure : Bool) : NativeStore MemoryStore where
  name := "memory"
  secure := secure
  put key blob := guarded fun m => ((), m.bind key blob)
  get key := guarded fun m => (m.lookup key, m)
  delete key := guarded fun m => ((m.lookup key).isSome, m.without key)

def keys (m : MemoryStore) : List NativeKey := NativeKey.sort (m.entries.map (·.1))

end MemoryStore
end Strongbox
