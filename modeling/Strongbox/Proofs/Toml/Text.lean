import Strongbox.Proofs.Text.Digits
import Strongbox.Toml.Text
/-! Every text is read back as it was written, in whichever form. The forms over several lines end at
three quotes in a row, so what counts is how many quotes stand in a row: a writer breaks a row that
gets too long, and a row at the very end of a text runs into the closing quotes. -/
namespace Strongbox.Toml

/-! ### Codes -/

theorem hexValue?_toUpper : ∀ n < 16, Text.hexValue? (Text.hexDigit n).toUpper = some n := by decide

theorem upperHex_eq (n : Nat) : upperHex n =
    [(Text.hexDigit (n / 4096 % 16)).toUpper, (Text.hexDigit (n / 256 % 16)).toUpper,
      (Text.hexDigit (n / 16 % 16)).toUpper, (Text.hexDigit (n % 16)).toUpper] := by
  simp [upperHex, Text.hexDigits, Nat.div_div_eq_div_mul]

/-- The character of a code of four digits. -/
theorem scalar?_digits {c : Char} (h : c.toNat < 0x10000) :
    scalar? (16 * (16 * (16 * (c.toNat / 4096 % 16) + c.toNat / 256 % 16) + c.toNat / 16 % 16) +
      c.toNat % 16) = some c := by
  have hvalue : 16 * (16 * (16 * (c.toNat / 4096 % 16) + c.toNat / 256 % 16) +
      c.toNat / 16 % 16) + c.toNat % 16 = c.toNat := by
    omega
  have hvalid : c.toNat.isValidChar := c.valid
  rw [hvalue, scalar?, if_pos hvalid, Char.ofNat_toNat]

theorem readBasic_upperHex {c : Char} (h : c.toNat < 0x10000) (rest : List Char) :
    readBasic (.code 4 0) (upperHex c.toNat ++ rest) = prepend [c] (readBasic between rest) := by
  have hdigit : ∀ n, Text.hexValue? (Text.hexDigit (n % 16)).toUpper = some (n % 16) :=
    fun n => hexValue?_toUpper _ (Nat.mod_lt _ (by decide))
  rw [upperHex_eq]
  simp [readBasic, hdigit, scalar?_digits h]

theorem readLong_upperHex {c : Char} (h : c.toNat < 0x10000) (rest : List Char) :
    readLong (.code 4 0) (upperHex c.toNat ++ rest) = prepend [c] (readLong between rest) := by
  have hdigit : ∀ n, Text.hexValue? (Text.hexDigit (n % 16)).toUpper = some (n % 16) :=
    fun n => hexValue?_toUpper _ (Nat.mod_lt _ (by decide))
  rw [upperHex_eq]
  simp [readLong, hdigit, scalar?_digits h]

/-! ### Quotes in a row -/

/-- How many quotes stand at the front. -/
def leading (quote : Char) (cs : List Char) : Nat := (cs.takeWhile (· == quote)).length

theorem leading_cons_self (quote : Char) (cs : List Char) :
    leading quote (quote :: cs) = leading quote cs + 1 := by
  simp [leading]

theorem leading_cons_of_ne {quote c : Char} (h : c ≠ quote) (cs : List Char) :
    leading quote (c :: cs) = 0 := by
  simp [leading, h]

theorem leading_of_head? {quote : Char} {cs : List Char} (h : cs.head? ≠ some quote) :
    leading quote cs = 0 := by
  cases cs with
  | nil => rfl
  | cons c cs => exact leading_cons_of_ne (by simpa using h) cs

theorem leading_replicate_append (quote : Char) (n : Nat) (cs : List Char) :
    leading quote (List.replicate n quote ++ cs) = n + leading quote cs := by
  induction n with
  | zero => simp
  | succ n ih =>
      rw [List.replicate_succ, List.cons_append, leading_cons_self, ih]
      omega

theorem leading_append (quote : Char) (cs later : List Char) :
    cs = List.replicate cs.length quote ∨ leading quote (cs ++ later) = leading quote cs := by
  induction cs with
  | nil => exact .inl rfl
  | cons c cs ih =>
      by_cases hc : c = quote
      · subst hc
        rcases ih with hall | hsame
        · left
          rw [List.length_cons, List.replicate_succ, ← hall]
        · right
          rw [List.cons_append, leading_cons_self, leading_cons_self, hsame]
      · right
        rw [List.cons_append, leading_cons_of_ne hc, leading_cons_of_ne hc]

theorem leading_append_le (quote : Char) (cs later : List Char) :
    leading quote (cs ++ later) ≤ leading quote cs + leading quote later := by
  induction cs with
  | nil => simp
  | cons c cs ih =>
      by_cases hc : c = quote
      · subst hc
        rw [List.cons_append, leading_cons_self, leading_cons_self]
        omega
      · rw [List.cons_append, leading_cons_of_ne hc]
        exact Nat.zero_le _

theorem close?_of_few {quote : Char} {cs : List Char} (h : leading quote cs < 3) :
    close? quote cs = none := if_pos h

theorem close?_replicate {quote : Char} {n : Nat} {later : List Char} (hn : n < 3)
    (hlater : later.head? ≠ some quote) :
    close? quote (List.replicate n quote ++ (List.replicate 3 quote ++ later)) =
      some (List.replicate n quote, later) := by
  have hrun : leading quote (List.replicate n quote ++ (List.replicate 3 quote ++ later)) =
      n + 3 := by
    rw [leading_replicate_append, leading_replicate_append, leading_of_head? hlater]
  have hdrop : (List.replicate n quote ++ (List.replicate 3 quote ++ later)).drop (n + 3) =
      later := by
    rw [← List.append_assoc, List.replicate_append_replicate]
    exact List.drop_left' List.length_replicate
  unfold leading at hrun
  unfold close?
  simp only [hrun]
  rw [if_neg (by omega), Nat.min_eq_left (by omega), hdrop, Nat.add_sub_cancel]

/-- Before the closing quotes a text ends where it holds nothing but quotes. -/
theorem close?_append {quote : Char} (body : List Char) {later : List Char}
    (hfew : leading quote body < 3) (hlater : later.head? ≠ some quote) :
    close? quote (body ++ (List.replicate 3 quote ++ later)) =
      if body = List.replicate body.length quote then some (body, later) else none := by
  by_cases hall : body = List.replicate body.length quote
  · have hn : body.length < 3 := by
      have hlead := leading_replicate_append quote body.length []
      rw [List.append_nil, ← hall] at hlead
      omega
    rw [if_pos hall]
    have hclose := close?_replicate hn hlater
    rwa [← hall] at hclose
  · rw [if_neg hall]
    refine close?_of_few ?_
    rwa [(leading_append quote body _).resolve_left hall]

/-! ### Double quotes -/

theorem isPlain_of_isControl {c : Char} (h : isControl c = false) (hline : c ≠ '\n') :
    isPlain c = true := by
  by_cases htab : c = '\t'
  · subst htab
    rfl
  · simp only [isControl, bne_iff_ne.2 htab, bne_iff_ne.2 hline, Bool.and_true, Bool.or_eq_false_iff,
      decide_eq_false_iff_not, beq_eq_false_iff_ne] at h
    simp only [isPlain, Bool.or_eq_true, Bool.and_eq_true, decide_eq_true_eq, bne_iff_ne]
    exact .inr ⟨by omega, h.2⟩

theorem toNat_lt_of_isControl {c : Char} (h : isControl c = true) : c.toNat < 0x10000 := by
  simp only [isControl, Bool.and_eq_true, Bool.or_eq_true, decide_eq_true_eq, beq_iff_eq] at h
  omega

theorem eq_ofNat_of_toNat {c : Char} {n : Nat} (h : c.toNat = n) : c = Char.ofNat n := by
  rw [← h, Char.ofNat_toNat]

/-- The ways a character other than a quote is written: by a short escape, by its code, or as it is. -/
theorem escapeChar_cases (long : Bool) {c : Char} (h : c ≠ '"') :
    (∃ e, escapeChar long c = ['\\', e] ∧ shortEscape? e = some c ∧ isBlank e = false ∧
      ∀ later, atLineEnd e later = false) ∨
    (escapeChar long c = '\\' :: 'u' :: upperHex c.toNat ∧ c.toNat < 0x10000) ∨
    (escapeChar long c = [c] ∧ c ≠ '\\' ∧ (isPlain c = true ∨ c = '\n' ∧ long = true)) := by
  have hescape : ∀ e : Char, e ∈ ['\\', 't', 'n', 'r', 'b', 'f'] →
      isBlank e = false ∧ ∀ later, atLineEnd e later = false := by
    intro e he
    simp only [List.mem_cons, List.not_mem_nil, or_false] at he
    rcases he with rfl | rfl | rfl | rfl | rfl | rfl <;> exact ⟨rfl, fun _ => rfl⟩
  unfold escapeChar
  by_cases hback : c = '\\'
  · subst hback
    exact .inl ⟨'\\', rfl, rfl, hescape _ (by simp)⟩
  rw [if_neg hback]
  by_cases htab : c = '\t'
  · subst htab
    exact .inl ⟨'t', rfl, rfl, hescape _ (by simp)⟩
  rw [if_neg htab]
  by_cases hline : c = '\n'
  · subst hline
    cases long with
    | true => exact .inr (.inr ⟨rfl, hback, .inr ⟨rfl, rfl⟩⟩)
    | false => exact .inl ⟨'n', rfl, rfl, hescape _ (by simp)⟩
  rw [if_neg hline]
  by_cases hreturn : c = '\r'
  · subst hreturn
    exact .inl ⟨'r', rfl, rfl, hescape _ (by simp)⟩
  rw [if_neg hreturn]
  by_cases hbell : c.toNat = 8
  · rw [if_pos hbell, eq_ofNat_of_toNat hbell]
    exact .inl ⟨'b', rfl, rfl, hescape _ (by simp)⟩
  rw [if_neg hbell]
  by_cases hfeed : c.toNat = 12
  · rw [if_pos hfeed, eq_ofNat_of_toNat hfeed]
    exact .inl ⟨'f', rfl, rfl, hescape _ (by simp)⟩
  rw [if_neg hfeed]
  cases hcontrol : isControl c with
  | true => exact .inr (.inl ⟨rfl, toNat_lt_of_isControl hcontrol⟩)
  | false => exact .inr (.inr ⟨rfl, hback, .inl (isPlain_of_isControl hcontrol hline)⟩)

theorem readBasic_backslash (cs : List Char) :
    readBasic between ('\\' :: cs) = readBasic .escape cs := rfl

theorem readBasic_short {e c : Char} (h : shortEscape? e = some c) (cs : List Char) :
    readBasic .escape (e :: cs) = prepend [c] (readBasic between cs) := by
  simp only [readBasic, h]

theorem readBasic_escapeChar {c : Char} (h : c ≠ '"') (cs : List Char) :
    readBasic between (escapeChar false c ++ cs) = prepend [c] (readBasic between cs) := by
  rcases escapeChar_cases false h with ⟨e, hwritten, hshort, -, -⟩ | ⟨hwritten, hcode⟩ |
    ⟨hwritten, hback, hplain⟩
  · rw [hwritten]
    exact readBasic_short hshort cs
  · rw [hwritten]
    exact readBasic_upperHex hcode cs
  · rcases hplain with hplain | ⟨-, hlong⟩
    · rw [hwritten, List.singleton_append, between, readBasic, if_neg h, if_neg hback, if_pos hplain]
      rfl
    · cases hlong

/-- On one line every quote is escaped. -/
theorem readBasic_escapeText (run : Nat) (cs later : List Char) :
    readBasic between (escapeText false 0 run cs ++ '"' :: later) = some (cs, later) := by
  induction cs generalizing run with
  | nil => rfl
  | cons c cs ih =>
      rw [escapeText]
      by_cases hquote : c = '"'
      · subst hquote
        rw [if_pos rfl, if_neg (Nat.not_lt_zero run)]
        have hshort : shortEscape? '"' = some '"' := rfl
        rw [List.cons_append, List.cons_append, readBasic_backslash, readBasic_short hshort, ih]
        rfl
      · rw [if_neg hquote, List.append_assoc, readBasic_escapeChar hquote, ih]
        rfl

theorem readLong_of_closed {c : Char} {cs : List Char} {closed : List Char × List Char}
    (h : close? '"' (c :: cs) = some closed) : readLong between (c :: cs) = some closed := by
  rw [between, readLong]
  simp only [Bool.false_and, Bool.false_eq_true, if_false, h]

theorem readLong_backslash (cs : List Char) :
    readLong between ('\\' :: cs) = readLong .escape cs := by
  have hclose : close? '"' ('\\' :: cs) = none := by
    refine close?_of_few ?_
    rw [leading_cons_of_ne (by decide)]
    omega
  rw [between, readLong]
  simp only [Bool.false_and, Bool.false_eq_true, if_false, hclose, if_true]

theorem readLong_short {e c : Char} (h : shortEscape? e = some c) (hblank : isBlank e = false)
    (cs : List Char) (hline : atLineEnd e cs = false) :
    readLong .escape (e :: cs) = prepend [c] (readLong between cs) := by
  rw [readLong]
  simp only [hblank, hline, Bool.false_eq_true, if_false, h]

theorem readLong_plain {c : Char} {cs : List Char} (hclose : close? '"' (c :: cs) = none)
    (hback : c ≠ '\\') (h : (isPlain c || atLineEnd c cs) = true) :
    readLong between (c :: cs) = prepend [c] (readLong between cs) := by
  rw [between, readLong]
  simp only [Bool.false_and, Bool.false_eq_true, if_false, hclose, if_neg hback, h, if_true]
  rfl

theorem readLong_escapeChar {c : Char} (h : c ≠ '"') (cs : List Char) :
    readLong between (escapeChar true c ++ cs) = prepend [c] (readLong between cs) := by
  rcases escapeChar_cases true h with ⟨e, hwritten, hshort, hblank, hline⟩ | ⟨hwritten, hcode⟩ |
    ⟨hwritten, hback, hplain⟩
  · rw [hwritten]
    exact (readLong_backslash _).trans (readLong_short hshort hblank cs (hline cs))
  · rw [hwritten]
    exact (readLong_backslash _).trans (readLong_upperHex hcode cs)
  · rw [hwritten]
    refine readLong_plain (close?_of_few ?_) hback ?_
    · rw [leading_cons_of_ne h]
      omega
    · rcases hplain with hplain | ⟨rfl, -⟩
      · rw [hplain, Bool.true_or]
      · rfl

theorem leading_escapeChar (long : Bool) {c : Char} (h : c ≠ '"') (cs : List Char) :
    leading '"' (escapeChar long c ++ cs) = 0 := by
  rcases escapeChar_cases long h with ⟨e, hwritten, -, -, -⟩ | ⟨hwritten, -⟩ | ⟨hwritten, -, -⟩
  · rw [hwritten]
    exact leading_cons_of_ne (by decide) _
  · rw [hwritten]
    exact leading_cons_of_ne (by decide) _
  · rw [hwritten]
    exact leading_cons_of_ne h cs

/-- No more quotes stand in a row than are allowed, the ones before counted in. -/
theorem leading_escapeText {allowed run : Nat} (long : Bool) (h : run ≤ allowed) (cs : List Char) :
    run + leading '"' (escapeText long allowed run cs) ≤ allowed := by
  induction cs generalizing run with
  | nil => exact h
  | cons c cs ih =>
      rw [escapeText]
      by_cases hquote : c = '"'
      · by_cases hrun : run < allowed
        · have hlead : run + 1 + _ ≤ allowed := ih hrun
          rw [if_pos hquote, if_pos hrun, hquote, leading_cons_self]
          omega
        · rw [if_pos hquote, if_neg hrun, leading_cons_of_ne (by decide)]
          exact h
      · rw [if_neg hquote, leading_escapeChar long hquote]
        exact h

/-- What is written as quotes alone is those quotes. -/
theorem eq_of_escapeText_eq_replicate {long : Bool} {allowed run n : Nat} {cs : List Char}
    (h : escapeText long allowed run cs = List.replicate n '"') : cs = List.replicate n '"' := by
  induction cs generalizing run n with
  | nil => exact h
  | cons c cs ih =>
      have hlead := leading_replicate_append '"' n []
      rw [List.append_nil, ← h] at hlead
      rw [escapeText] at h hlead
      have hpos : n ≠ 0 := by
        rintro rfl
        have hnil := congrArg List.length h
        by_cases hquote : c = '"'
        · rw [if_pos hquote] at hnil
          split at hnil <;> cases hnil
        · rw [if_neg hquote] at hnil
          rcases escapeChar_cases long hquote with ⟨e, hwritten, -, -, -⟩ | ⟨hwritten, -⟩ |
            ⟨hwritten, -, -⟩ <;> rw [hwritten] at hnil <;> cases hnil
      by_cases hquote : c = '"'
      · by_cases hrun : run < allowed
        · rw [if_pos hquote, if_pos hrun] at h
          obtain ⟨n, rfl⟩ := Nat.exists_eq_succ_of_ne_zero hpos
          rw [Nat.succ_eq_add_one, List.replicate_succ] at h ⊢
          rw [hquote, ih (List.cons.inj h).2]
        · rw [if_pos hquote, if_neg hrun, leading_cons_of_ne (by decide)] at hlead
          exact absurd (hlead.symm.trans rfl) hpos
      · rw [if_neg hquote, leading_escapeChar long hquote] at hlead
        exact absurd (hlead.symm.trans rfl) hpos

/-- Over several lines two quotes may stand in a row, also right before the closing ones. -/
theorem readLong_escapeText {run : Nat} (hrun : run ≤ 2) (cs : List Char) {later : List Char}
    (hlater : later.head? ≠ some '"') :
    readLong between (escapeText true 2 run cs ++ (List.replicate 3 '"' ++ later)) =
      some (cs, later) := by
  induction cs generalizing run with
  | nil => exact readLong_of_closed (close?_replicate (n := 0) (by decide) hlater)
  | cons c cs ih =>
      have hfew := leading_escapeText true hrun (c :: cs)
      have hclose := close?_append (escapeText true 2 run (c :: cs)) (by omega) hlater
      by_cases hall : escapeText true 2 run (c :: cs) =
          List.replicate (escapeText true 2 run (c :: cs)).length '"'
      · rw [if_pos hall] at hclose
        have hsame := eq_of_escapeText_eq_replicate hall
        rw [← hall] at hsame
        rw [← hsame] at hclose ⊢
        exact readLong_of_closed hclose
      · rw [if_neg hall] at hclose
        rw [escapeText] at hclose ⊢
        by_cases hquote : c = '"'
        · by_cases hrun : run < 2
          · rw [if_pos hquote, if_pos hrun, List.cons_append] at hclose ⊢
            rw [readLong_plain hclose (by rw [hquote]; decide) (by rw [hquote]; rfl), ih hrun]
            rfl
          · have hshort : shortEscape? '"' = some '"' := rfl
            rw [if_pos hquote, if_neg hrun, List.cons_append, List.cons_append, readLong_backslash,
              readLong_short hshort rfl _ rfl, ih (Nat.zero_le 2), hquote]
            rfl
        · rw [if_neg hquote, List.append_assoc, readLong_escapeChar hquote, ih (Nat.zero_le 2)]
          rfl

/-! ### Single quotes -/

theorem longestRun_mono {c : Char} {run run' : Nat} (h : run ≤ run') (cs : List Char) :
    longestRun c run cs ≤ longestRun c run' cs := by
  induction cs generalizing run run' with
  | nil => exact h
  | cons d cs ih =>
      rw [longestRun, longestRun]
      by_cases hd : d = c
      · rw [if_pos hd, if_pos hd]
        exact ih (Nat.succ_le_succ h)
      · rw [if_neg hd, if_neg hd]
        omega

theorem longestRun_le_cons (c d : Char) (run : Nat) (cs : List Char) :
    longestRun c 0 cs ≤ longestRun c run (d :: cs) := by
  rw [longestRun]
  by_cases hd : d = c
  · rw [if_pos hd]
    exact longestRun_mono (Nat.zero_le _) cs
  · rw [if_neg hd]
    exact Nat.le_max_right _ _

theorem leading_le_longestRun (c : Char) (run : Nat) (cs : List Char) :
    run + leading c cs ≤ longestRun c run cs := by
  induction cs generalizing run with
  | nil => exact Nat.le_refl run
  | cons d cs ih =>
      rw [longestRun]
      by_cases hd : d = c
      · have hlead := ih (run + 1)
        rw [if_pos hd, hd, leading_cons_self]
        omega
      · rw [if_neg hd, leading_cons_of_ne hd]
        exact Nat.le_max_left _ _

theorem readLiteral_append {cs : List Char} (later : List Char)
    (h : ∀ c ∈ cs, isControl c = false ∧ c ≠ '\n') (hquote : longestRun '\'' 0 cs = 0) :
    readLiteral (cs ++ '\'' :: later) = some (cs, later) := by
  induction cs with
  | nil => rfl
  | cons c cs ih =>
      obtain ⟨hcontrol, hline⟩ := h c List.mem_cons_self
      have hlead := leading_le_longestRun '\'' 0 (c :: cs)
      have hc : c ≠ '\'' := by
        rintro rfl
        rw [leading_cons_self] at hlead
        omega
      have hrest := longestRun_le_cons '\'' c 0 cs
      rw [List.cons_append, readLiteral, if_neg hc, if_pos (isPlain_of_isControl hcontrol hline),
        ih (fun c hc => h c (List.mem_cons_of_mem _ hc)) (by omega)]
      rfl

theorem readLongLiteral_append {cs later : List Char} (h : ∀ c ∈ cs, isControl c = false)
    (hquote : longestRun '\'' 0 cs < 3) (hlater : later.head? ≠ some '\'') :
    readLongLiteral (cs ++ (List.replicate 3 '\'' ++ later)) = some (cs, later) := by
  induction cs with
  | nil =>
      have hclose : close? '\'' ('\'' :: '\'' :: '\'' :: later) = some ([], later) :=
        close?_replicate (n := 0) (by decide) hlater
      rw [List.nil_append, List.replicate_succ, List.replicate_succ, List.replicate_one,
        List.cons_append, List.cons_append, List.singleton_append, readLongLiteral, hclose]
  | cons c cs ih =>
      have hlead := leading_le_longestRun '\'' 0 (c :: cs)
      have hclose := close?_append (c :: cs) (by omega) hlater
      rw [List.cons_append] at hclose ⊢
      rw [readLongLiteral, hclose]
      by_cases hall : c :: cs = List.replicate (c :: cs).length '\''
      · rw [if_pos hall]
      · have hplain : (isPlain c || atLineEnd c (cs ++ (List.replicate 3 '\'' ++ later))) = true := by
          by_cases hline : c = '\n'
          · rw [hline]
            rfl
          · rw [isPlain_of_isControl (h c List.mem_cons_self) hline, Bool.true_or]
        have hrest := longestRun_le_cons '\'' c 0 cs
        rw [if_neg hall]
        dsimp only
        rw [if_pos hplain, ih (fun c hc => h c (List.mem_cons_of_mem _ hc)) (by omega)]
        rfl

/-! ### Every form -/

theorem dropLineEnd_of_head? {cs : List Char} (hline : cs.head? ≠ some '\n')
    (hreturn : cs.head? ≠ some '\r') : dropLineEnd cs = cs := by
  unfold dropLineEnd
  split
  · exact absurd rfl hline
  · exact absurd rfl hreturn
  · rfl

/-- Of what follows the opening quotes a reader drops what they brought along, and nothing else. -/
theorem dropLineEnd_opened {cs body : List Char} (hreturn : body.head? ≠ some '\r')
    (hline : body.head? = some '\n' → '\n' ∈ cs) :
    dropLineEnd ((if cs.contains '\n' then ['\n'] else []) ++ body) = body := by
  by_cases hcs : '\n' ∈ cs
  · rw [if_pos (by simpa using hcs)]
    rfl
  · rw [if_neg (by simpa using hcs), List.nil_append]
    exact dropLineEnd_of_head? (fun h => hcs (hline h)) hreturn

theorem head?_escapeChar (long : Bool) {c : Char} (h : c ≠ '"') (later : List Char) :
    (escapeChar long c ++ later).head? ≠ some '\r' ∧
      ((escapeChar long c ++ later).head? = some '\n' → c = '\n') := by
  rcases escapeChar_cases long h with ⟨e, hwritten, -, -, -⟩ | ⟨hwritten, -⟩ |
    ⟨hwritten, -, hplain⟩
  · rw [hwritten]
    exact ⟨by simp, by simp⟩
  · rw [hwritten]
    exact ⟨by simp, by simp⟩
  · rw [hwritten]
    refine ⟨?_, by simp⟩
    intro hreturn
    rw [List.singleton_append, List.head?_cons, Option.some.injEq] at hreturn
    subst hreturn
    rcases hplain with hplain | ⟨hline, -⟩
    · exact absurd hplain (by decide)
    · exact absurd hline (by decide)

theorem head?_escapeText (cs later : List Char) :
    (escapeText true 2 0 cs ++ '"' :: later).head? ≠ some '\r' ∧
      ((escapeText true 2 0 cs ++ '"' :: later).head? = some '\n' → '\n' ∈ cs) := by
  cases cs with
  | nil => exact ⟨by simp [escapeText], by simp [escapeText]⟩
  | cons c cs =>
      rw [escapeText]
      by_cases hquote : c = '"'
      · rw [if_pos hquote, if_pos (by decide), List.cons_append, List.head?_cons, hquote]
        exact ⟨by decide, fun h => absurd h (by decide)⟩
      · rw [if_neg hquote, List.append_assoc]
        obtain ⟨hreturn, hline⟩ := head?_escapeChar true hquote
          (escapeText true 2 0 cs ++ '"' :: later)
        exact ⟨hreturn, fun h => hline h ▸ List.mem_cons_self⟩

theorem readText?_double {cs : List Char} (h : leading '"' cs < 2) :
    readText? ('"' :: cs) = readBasic between cs := by
  unfold readText?
  split
  · rename_i later heq
    cases heq
    rw [leading_cons_self, leading_cons_self] at h
    omega
  · rename_i heq
    cases heq
  · rfl

theorem readText?_single {cs : List Char} (h : leading '\'' cs < 2) :
    readText? ('\'' :: cs) = readLiteral cs := by
  unfold readText?
  split
  · rename_i heq
    cases heq
  · rename_i later heq
    cases heq
    rw [leading_cons_self, leading_cons_self] at h
    omega
  · rfl

theorem of_eq_literal {cs : List Char} (h : Form.of cs = .literal) :
    (∀ c ∈ cs, isControl c = false ∧ c ≠ '\n') ∧ longestRun '\'' 0 cs = 0 := by
  dsimp only [Form.of] at h
  split at h
  · cases h
  · split at h
    · rename_i hform
      simp only [Bool.and_eq_true, Bool.not_eq_true', decide_eq_true_eq, List.any_eq_false,
        Bool.not_eq_true, List.contains_eq_mem, decide_eq_false_iff_not] at hform
      obtain ⟨⟨hcontrol, hsingle⟩, hlines⟩ := hform
      exact ⟨fun c hc => ⟨hcontrol c hc, fun hline => hlines (hline ▸ hc)⟩, hsingle⟩
    · split at h
      · cases h
      · split at h
        · cases h
        · split at h <;> cases h

theorem of_eq_longLiteral {cs : List Char} (h : Form.of cs = .longLiteral) :
    (∀ c ∈ cs, isControl c = false) ∧ longestRun '\'' 0 cs < 3 := by
  dsimp only [Form.of] at h
  split at h
  · cases h
  · split at h
    · cases h
    · split at h
      · cases h
      · split at h
        · rename_i hform
          simpa only [Bool.and_eq_true, Bool.not_eq_true', decide_eq_true_eq, List.any_eq_false,
            Bool.not_eq_true] using hform
        · split at h <;> cases h

/-- Whatever the text, it is read back up to its end, which a quote right behind it would hide. -/
theorem readText?_writeText (cs : List Char) {later : List Char}
    (hdouble : later.head? ≠ some '"') (hsingle : later.head? ≠ some '\'') :
    readText? (writeText cs ++ later) = some (cs, later) := by
  cases hform : Form.of cs with
  | basic =>
      have hfew : leading '"' (escapeText false 0 0 cs ++ '"' :: later) < 2 := by
        have hescaped := leading_escapeText false (Nat.le_refl 0) cs
        have hle := leading_append_le '"' (escapeText false 0 0 cs) ('"' :: later)
        rw [leading_cons_self, leading_of_head? hdouble] at hle
        omega
      simp only [writeText, hform, List.cons_append, List.append_assoc, List.nil_append]
      rw [readText?_double hfew, readBasic_escapeText]
  | literal =>
      obtain ⟨hplain, hnone⟩ := of_eq_literal hform
      have hfew : leading '\'' (cs ++ '\'' :: later) < 2 := by
        have hrun := leading_le_longestRun '\'' 0 cs
        have hle := leading_append_le '\'' cs ('\'' :: later)
        rw [leading_cons_self, leading_of_head? hsingle] at hle
        omega
      simp only [writeText, hform, List.cons_append, List.append_assoc, List.nil_append]
      rw [readText?_single hfew, readLiteral_append later hplain hnone]
  | longBasic =>
      obtain ⟨hreturn, hline⟩ := head?_escapeText cs ('"' :: '"' :: later)
      have hdrop := dropLineEnd_opened hreturn hline
      have hread := readLong_escapeText (Nat.zero_le 2) cs hdouble
      simp only [writeText, hform, opening, List.append_assoc]
      exact (congrArg (readLong between) hdrop).trans hread
  | longLiteral =>
      obtain ⟨hplain, hfew⟩ := of_eq_longLiteral hform
      have hread := readLongLiteral_append hplain hfew hsingle
      have hdrop : dropLineEnd ((if cs.contains '\n' then ['\n'] else []) ++
          (cs ++ (List.replicate 3 '\'' ++ later))) = cs ++ (List.replicate 3 '\'' ++ later) := by
        cases cs with
        | nil => rfl
        | cons c cs =>
            refine dropLineEnd_opened ?_ ?_
            · rintro hreturn
              cases hreturn
              exact absurd (hplain '\r' List.mem_cons_self) (by decide)
            · rintro hline
              cases hline
              exact List.mem_cons_self
      simp only [writeText, hform, opening, List.append_assoc]
      exact (congrArg readLongLiteral hdrop).trans hread

end Strongbox.Toml
