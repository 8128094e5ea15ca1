import Mathlib.Tactic.IntervalCases
import Mathlib.Tactic.SplitIfs
import Perimeter.Json.Decode

/-!
# Scanning what was written

The text of a JSON value is cut into the tokens that the value is made of. The writer adds to the
end of a text and the scanner reads from its start, so both are followed from one piece of text
to the next: what a piece adds to the tokens does not depend on what is still to come. Numbers are
the exception. They end only where something else follows, and so a text that ends with one is
told apart (`Closes`) from a text after which nothing is begun (`Spells`).
-/

namespace Perimeter.Json

namespace Token

/-- One more character read. The tokens so far stand last first. -/
def advance (r : List Token × State) (c : Char) : List Token × State :=
  ((step r.2 c).1.reverse ++ r.1, (step r.2 c).2)

/-- Where the reading stands after a text. -/
def after (out : String) : List Token × State := out.toList.foldl advance ([], .idle)

theorem after_push (out : String) (c : Char) : after (out.push c) = advance (after out) c := by
  simp [after]

theorem after_append (out s : String) : after (out ++ s) = s.toList.foldl advance (after out) := by
  simp [after]

theorem scanFrom_eq (read : List Token) (s : State) (cs : List Char) :
    scanFrom read s cs =
      (cs.foldl advance (read, s)).1.reverse ++ finish (cs.foldl advance (read, s)).2 := by
  induction cs generalizing read s with
  | nil => rfl
  | cons c cs ih => exact ih _ _

theorem scan_eq (out : String) : scan out = (after out).1.reverse ++ finish (after out).2 :=
  scanFrom_eq _ _ _

/-! ## Pieces of a text -/

/-- A text that is read as some tokens, with nothing begun after them. -/
def Spells (out : String) (ts : List Token) : Prop := after out = (ts.reverse, .idle)

/-- What may follow a value, with its token. -/
def closers : List (Char × Token) := [(',', .comma), (']', .endArray), ('}', .endObject)]

theorem forall_closers {P : Char × Token → Prop} :
    (∀ p ∈ closers, P p) ↔ P (',', .comma) ∧ P (']', .endArray) ∧ P ('}', .endObject) := by
  simp [closers]

/-- A text that is read as some tokens. At its end may stand a number, which goes on unless the
text ends or something else follows. -/
structure Closes (out : String) (ts : List Token) : Prop where
  scan : scan out = ts
  push : ∀ p ∈ closers, Spells (out.push p.1) (ts ++ [p.2])

variable {out : String} {ts : List Token}

theorem spells_empty : Spells "" [] := rfl

theorem Spells.push (spells : Spells out ts) {c : Char} {t : Token}
    (whole : step .idle c = ([t], .idle)) : Spells (out.push c) (ts ++ [t]) := by
  rw [Spells, after_push, spells, advance, whole, List.reverse_append]

theorem Spells.closes (spells : Spells out ts) : Closes out ts where
  scan := by
    rw [scan_eq, spells]
    simp [finish]
  push := forall_closers.mpr ⟨spells.push rfl, spells.push rfl, spells.push rfl⟩

theorem closes_of_read {s : State} {t : Token} (read : after out = (ts.reverse, s))
    (last : finish s = [t]) (close : ∀ p ∈ closers, step s p.1 = ([t, p.2], .idle)) :
    Closes out (ts ++ [t]) where
  scan := by simp [scan_eq, read, last]
  push p mem := by simp [Spells, after_push, read, advance, close p mem]

theorem Spells.null (spells : Spells out ts) : Spells (out ++ "null") (ts ++ [.null]) := by
  rw [Spells, after_append, spells, List.reverse_append]
  rfl

theorem Spells.bool (spells : Spells out ts) (b : Bool) :
    Spells (out ++ if b then "true" else "false") (ts ++ [.bool b]) := by
  rw [Spells, after_append, spells, List.reverse_append]
  cases b <;> rfl

/-! ## Quoted texts -/

theorem hex?_digit : ∀ n < 16,
    hex? (if n < 10 then Char.ofNat (48 + n) else Char.ofNat (87 + n)) = some n := by
  decide

/-- A character is read back from its escaped form. -/
theorem read_escape (c : Char) (read : List Token) (done : List Char) :
    (escape c).foldl advance (read, .quoted ⟨done, true, none⟩) =
      (read, .quoted ⟨c :: done, true, none⟩) := by
  unfold escape
  split_ifs with quote slash newline enter tab back feed control
  -- the seven characters that have an escape of their own
  iterate 7
    · subst c
      rfl
  · have high := hex?_digit (c.toNat / 16) (by omega)
    have low := hex?_digit (c.toNat % 16) (by omega)
    have zero : hex? '0' = some 0 := rfl
    have code : 16 * (c.toNat / 16) + c.toNat % 16 = c.toNat := Nat.div_add_mod c.toNat 16
    have lead : ¬ 0xD800 ≤ c.toNat := by omega
    have trail : ¬ 0xDC00 ≤ c.toNat := by omega
    simp [advance, step, zero, high, low, code, Quoted.pushUnit, lead, trail]
  · simp [advance, step, quote, slash, control, Quoted.push]

theorem after_escapes (s : String) (out : String) :
    after (s.foldl (fun out c => (escape c).foldl String.push out) out) =
      (s.toList.flatMap escape).foldl advance (after out) := by
  have pushed : ∀ (cs : List Char) (out : String),
      after (cs.foldl String.push out) = cs.foldl advance (after out) := by
    intro cs
    induction cs with
    | nil => exact fun out => rfl
    | cons c cs ih =>
      intro out
      rw [List.foldl_cons, ih, after_push, List.foldl_cons]
  rw [String.foldl_eq_foldl_toList]
  generalize s.toList = cs
  induction cs generalizing out with
  | nil => rfl
  | cons c cs ih => rw [List.foldl_cons, ih, pushed, List.flatMap_cons, List.foldl_append]

theorem Spells.quote (spells : Spells out ts) (s : String) :
    Spells (quoteOnto out s) (ts ++ [.string (some s)]) := by
  have inside : ∀ (cs done : List Char),
      (cs.flatMap escape).foldl advance (ts.reverse, .quoted ⟨done, true, none⟩) =
        (ts.reverse, .quoted ⟨cs.reverse ++ done, true, none⟩) := by
    intro cs
    induction cs with
    | nil => exact fun done => rfl
    | cons c cs ih =>
      intro done
      rw [List.flatMap_cons, List.foldl_append, read_escape, ih]
      simp
  have opened : after (out.push '"') = (ts.reverse, .quoted ⟨[], true, none⟩) := by
    rw [after_push, spells]
    rfl
  rw [Spells, quoteOnto, after_push, after_escapes, opened, inside, advance]
  simp [step, Quoted.token]

/-! ## Numbers -/

/-- Induction along the decimal digits of a number, from the first to the last. -/
@[elab_as_elim]
theorem digit_induction {P : Nat → Prop} (first : ∀ n < 10, P n)
    (next : ∀ n, 10 ≤ n → P (n / 10) → P n) (n : Nat) : P n := by
  induction n using Nat.strong_induction_on with
  | h n ih =>
    by_cases small : n < 10
    · exact first n small
    · exact next n (by omega) (ih (n / 10) (by omega))

namespace Counted

/-- The digits of a number, read one by one. -/
def ofNat (negative : Bool) (n : Nat) : Counted :=
  (Nat.toDigits 10 n).foldl (fun c d => c.push (d.toNat - 48)) (start negative)

/-- A number, read as it is written. -/
def ofNumeral : Numeral → Counted
  | .int n => ofNat (n < 0) n.natAbs
  | .real negative digits exponent =>
    { ofNat negative digits with
      whole := false, exponentNegative := exponent < 0, exponent := exponent.natAbs }

variable {n : Nat}

theorem ofNat_of_lt (negative : Bool) (small : n < 10) :
    ofNat negative n = (start negative).push n := by
  rw [ofNat, Nat.toDigits_of_lt_base small, List.foldl_cons, List.foldl_nil,
    Nat.toNat_digitChar_sub_48_of_lt_ten small]

theorem ofNat_of_le (negative : Bool) (large : 10 ≤ n) :
    ofNat negative n = (ofNat negative (n / 10)).push (n % 10) := by
  rw [ofNat, Nat.toDigits_of_base_le (by decide) large, List.foldl_append, List.foldl_cons,
    List.foldl_nil, Nat.toNat_digitChar_sub_48_of_lt_ten (Nat.mod_lt n (by decide))]
  rfl

/-- Digits beyond 64 bits are left out, and each of them counts as a power of ten. -/
theorem ofNat_whole (negative : Bool) (n : Nat) :
    ∃ (d p : Nat) (full : Bool), ofNat negative n = ⟨negative, d, p, full, true, false, 0⟩ ∧
      d ≤ maxWord64 ∧ p < (Nat.toDigits 10 n).length := by
  induction n using digit_induction with
  | first n small =>
    have word : n ≤ maxWord64 := by
      unfold maxWord64
      omega
    have fits : (start negative).fits n = true := by simp [fits, start, word]
    refine ⟨n, 0, false, ?_, word, Nat.length_toDigits_pos⟩
    rw [ofNat_of_lt negative small, push, if_pos fits]
    simp [start]
  | next n large ih =>
    obtain ⟨d, p, full, before, word, power⟩ := ih
    have longer : (Nat.toDigits 10 n).length = (Nat.toDigits 10 (n / 10)).length + 1 := by
      rw [Nat.toDigits_of_base_le (by decide) large, List.length_append]
      rfl
    rw [ofNat_of_le negative large, before, push]
    split_ifs with fits
    · refine ⟨10 * d + n % 10, p, full, rfl, ?_, by omega⟩
      simpa [Counted.fits] using (Bool.and_eq_true_iff.mp fits).2
    · exact ⟨d, p + 1, true, rfl, word, by omega⟩

/-- A number of 64 bits is read as it is. -/
theorem ofNat_of_word (negative : Bool) (word : n ≤ maxWord64) :
    ofNat negative n = ⟨negative, n, 0, false, true, false, 0⟩ := by
  induction n using digit_induction with
  | first n small =>
    have fits : (start negative).fits n = true := by simp [fits, start, word]
    rw [ofNat_of_lt negative small, push, if_pos fits]
    simp [start]
  | next n large ih =>
    have whole : 10 * (n / 10) + n % 10 = n := Nat.div_add_mod n 10
    rw [ofNat_of_le negative large, ih (by omega), push, if_pos]
    · simp only [whole]
    · simp [fits, whole, word]

end Counted

/-- Where reading stands before the first digit of a number. -/
def entry (negative : Bool) : State := if negative then .minus else .idle

/-- A sign, where one is written. -/
def sign (negative : Bool) : List Char := if negative then ['-'] else []

/-- Reading stands in the digits of a number, which ends there or goes on with an exponent. -/
structure Pending (s : State) (c : Counted) : Prop where
  finish : finish s = [c.token]
  close : ∀ p ∈ closers, step s p.1 = ([c.token, p.2], .idle)
  mark : step s 'e' = ([], .mark { c with whole := false })

theorem pending_zero (c : Counted) : Pending (.zero c) c where
  finish := rfl
  close := forall_closers.mpr ⟨rfl, rfl, rfl⟩
  mark := rfl

theorem pending_digits (c : Counted) : Pending (.digits c) c where
  finish := rfl
  close := forall_closers.mpr ⟨rfl, rfl, rfl⟩
  mark := rfl

theorem digit?_digitChar {d : Nat} (small : d < 10) : digit? d.digitChar = some d := by
  rw [digit?, Nat.isDigit_digitChar, decide_eq_true small,
    Nat.toNat_digitChar_sub_48_of_lt_ten small]
  rfl

theorem step_digits (c : Counted) {d : Nat} (small : d < 10) :
    step (.digits c) d.digitChar = ([], .digits (c.push d)) := by
  simp [step, digit?_digitChar small]

theorem step_entry (negative : Bool) {d : Nat} (small : d < 10) (nonzero : d ≠ 0) :
    step (entry negative) d.digitChar = ([], .digits ((Counted.start negative).push d)) := by
  interval_cases d
  · contradiction
  all_goals cases negative <;> rfl

theorem read_sign (negative : Bool) (read : List Token) :
    (sign negative).foldl advance (read, .idle) = (read, entry negative) := by
  cases negative <;> rfl

theorem read_nonzero (negative : Bool) {n : Nat} (nonzero : n ≠ 0) (read : List Token) :
    (Nat.toDigits 10 n).foldl advance (read, entry negative) =
      (read, .digits (.ofNat negative n)) := by
  induction n using digit_induction with
  | first n small =>
    rw [Nat.toDigits_of_lt_base small, List.foldl_cons, List.foldl_nil, advance,
      step_entry negative small nonzero, Counted.ofNat_of_lt negative small]
    rfl
  | next n large ih =>
    have last : n % 10 < 10 := Nat.mod_lt n (by decide)
    rw [Nat.toDigits_of_base_le (by decide) large, List.foldl_append, ih (by omega),
      List.foldl_cons, List.foldl_nil, advance, step_digits _ last,
      Counted.ofNat_of_le negative large]
    rfl

/-- A zero stands alone: no digit may follow it. -/
theorem read_digits (negative : Bool) (n : Nat) (read : List Token) :
    ∃ s, (Nat.toDigits 10 n).foldl advance (read, entry negative) = (read, s) ∧
      Pending s (.ofNat negative n) := by
  by_cases zero : n = 0
  · subst n
    refine ⟨.zero (.ofNat negative 0), ?_, pending_zero _⟩
    cases negative <;> rfl
  · exact ⟨_, read_nonzero negative zero read, pending_digits _⟩

theorem read_exponent {s : State} {c : Counted}
    (enter : ∀ d < 10, step s d.digitChar = ([], .exponent (c.pushExponent d)))
    (fresh : c.exponent = 0) (n : Nat) (read : List Token) :
    (Nat.toDigits 10 n).foldl advance (read, s) = (read, .exponent { c with exponent := n }) := by
  induction n using digit_induction with
  | first n small =>
    rw [Nat.toDigits_of_lt_base small, List.foldl_cons, List.foldl_nil, advance,
      enter n small, Counted.pushExponent, fresh]
    simp
  | next n large ih =>
    have last : n % 10 < 10 := Nat.mod_lt n (by decide)
    rw [Nat.toDigits_of_base_le (by decide) large, List.foldl_append, ih, List.foldl_cons,
      List.foldl_nil, advance]
    simp [step, digit?_digitChar last, Counted.pushExponent, Nat.div_add_mod]

/-- An exponent is read whole, however long it is. -/
theorem read_power {c : Counted} (fresh : c.exponent = 0) (positive : c.exponentNegative = false)
    (e : Int) (read : List Token) :
    (sign (e < 0) ++ Nat.toDigits 10 e.natAbs).foldl advance (read, .mark c) =
      (read, .exponent { c with exponentNegative := e < 0, exponent := e.natAbs }) := by
  rw [List.foldl_append]
  by_cases below : e < 0
  · have signed : (sign (e < 0)).foldl advance (read, .mark c) =
        (read, .sign { c with exponentNegative := true }) := by
      simp only [below, decide_true]
      rfl
    rw [signed, read_exponent (c := { c with exponentNegative := true }) _ fresh]
    · simp [below]
    · intro d small
      simp [step, digit?_digitChar small]
  · have unsigned : (sign (e < 0)).foldl advance (read, .mark c) = (read, .mark c) := by
      simp only [below, decide_false]
      rfl
    rw [unsigned, read_exponent _ fresh]
    · simp [below, ← positive]
    · intro d small
      have plus : d.digitChar ≠ '+' := Nat.digitChar_ne '+' (by decide)
      have minus : d.digitChar ≠ '-' := Nat.digitChar_ne '-' (by decide)
      simp [step, digit?_digitChar small, plus, minus]

theorem toList_int (n : Int) :
    (toString n).toList = sign (n < 0) ++ Nat.toDigits 10 n.natAbs := by
  cases n with
  | ofNat n => exact Nat.toList_repr
  | negSucc n =>
    have text : toString (Int.negSucc n) = "-" ++ Nat.repr (n + 1) := rfl
    rw [text, String.toList_append, Nat.toList_repr, decide_eq_true (Int.negSucc_lt_zero n)]
    rfl

theorem toList_real (negative : Bool) (digits : Nat) (exponent : Int) :
    (numeralText (.real negative digits exponent)).toList =
      sign negative ++ (Nat.toDigits 10 digits ++
        'e' :: (sign (exponent < 0) ++ Nat.toDigits 10 exponent.natAbs)) := by
  have first : (if negative then "-" else "").toList = sign negative := by
    cases negative <;> rfl
  have second : (toString digits).toList = Nat.toDigits 10 digits := Nat.toList_repr
  simp only [numeralText, String.toList_append, toList_int, first, second]
  simp

theorem Spells.int (spells : Spells out ts) (n : Int) :
    Closes (out ++ toString n) (ts ++ [(Counted.ofNumeral (.int n)).token]) := by
  obtain ⟨s, digits, pending⟩ := read_digits (n < 0) n.natAbs ts.reverse
  apply closes_of_read _ pending.finish pending.close
  rw [after_append, spells, toList_int, List.foldl_append, read_sign, digits]

theorem Spells.real (spells : Spells out ts) (negative : Bool) (digits : Nat) (exponent : Int) :
    Closes (out ++ numeralText (.real negative digits exponent))
      (ts ++ [(Counted.ofNumeral (.real negative digits exponent)).token]) := by
  obtain ⟨s, mantissa, pending⟩ := read_digits negative digits ts.reverse
  obtain ⟨d, p, full, whole, _⟩ := Counted.ofNat_whole negative digits
  apply closes_of_read (s := .exponent (.ofNumeral (.real negative digits exponent)))
  · rw [after_append, spells, toList_real, List.foldl_append, read_sign, List.foldl_append,
      mantissa, List.foldl_cons, advance, pending.mark, List.reverse_nil, List.nil_append,
      read_power]
    · rfl
    · simp [whole]
    · simp [whole]
  · rfl
  · exact forall_closers.mpr ⟨rfl, rfl, rfl⟩

theorem Spells.number (spells : Spells out ts) (n : Numeral) :
    Closes (out ++ numeralText n) (ts ++ [(Counted.ofNumeral n).token]) := by
  cases n with
  | int n => exact spells.int n
  | real negative digits exponent => exact spells.real negative digits exponent

end Token

/-! ## Values -/

open Token

mutual

/-- The tokens of a value. -/
def tokens : Json → List Token
  | null => [.null]
  | bool b => [.bool b]
  | number n => [(Counted.ofNumeral n).token]
  | string s => [.string (some s)]
  | array [] => [.beginArray, .endArray]
  | array (j :: js) => .beginArray :: (tokens j ++ itemTokens js ++ [.endArray])
  | object [] => [.beginObject, .endObject]
  | object ((name, j) :: fs) =>
    .beginObject :: .string (some name) :: .colon :: (tokens j ++ fieldTokens fs ++ [.endObject])

/-- The tokens of the items after the first. -/
def itemTokens : List Json → List Token
  | [] => []
  | j :: js => .comma :: (tokens j ++ itemTokens js)

/-- The tokens of the fields after the first. -/
def fieldTokens : List (String × Json) → List Token
  | [] => []
  | (name, j) :: fs => .comma :: .string (some name) :: .colon :: (tokens j ++ fieldTokens fs)

end

mutual

theorem closes_writeOnto {out : String} {ts : List Token} (spells : Spells out ts) :
    ∀ j : Json, Closes (writeOnto out j) (ts ++ j.tokens)
  | null => spells.null.closes
  | bool b => (spells.bool b).closes
  | number n => spells.number n
  | string s => (spells.quote s).closes
  | array [] => by
    have opened := spells.push (c := '[') rfl
    have closed := opened.push (c := ']') rfl
    have text : out ++ "[]" = (out.push '[').push ']' := by simp [← String.toList_inj]
    simpa [writeOnto, tokens, text] using closed.closes
  | array (j :: js) => by
    have opened := spells.push (c := '[') rfl
    have items := closes_writeItems (closes_writeOnto opened j) js
    have closed := items.push (']', .endArray) (by simp [closers])
    simpa [writeOnto, tokens] using closed.closes
  | object [] => by
    have opened := spells.push (c := '{') rfl
    have closed := opened.push (c := '}') rfl
    simpa [writeOnto, tokens] using closed.closes
  | object ((name, j) :: fs) => by
    have opened := spells.push (c := '{') rfl
    have named := (opened.quote name).push (c := ':') rfl
    have fields := closes_writeFields (closes_writeOnto named j) fs
    have closed := fields.push ('}', .endObject) (by simp [closers])
    simpa [writeOnto, tokens] using closed.closes

theorem closes_writeItems {out : String} {ts : List Token} (closes : Closes out ts) :
    ∀ js : List Json, Closes (writeItems out js) (ts ++ itemTokens js)
  | [] => by simpa [writeItems, itemTokens] using closes
  | j :: js => by
    have comma := closes.push (',', .comma) (by simp [closers])
    have items := closes_writeItems (closes_writeOnto comma j) js
    simpa [writeItems, itemTokens] using items

theorem closes_writeFields {out : String} {ts : List Token} (closes : Closes out ts) :
    ∀ fs : List (String × Json), Closes (writeFields out fs) (ts ++ fieldTokens fs)
  | [] => by simpa [writeFields, fieldTokens] using closes
  | (name, j) :: fs => by
    have comma := closes.push (',', .comma) (by simp [closers])
    have named := (comma.quote name).push (c := ':') rfl
    have fields := closes_writeFields (closes_writeOnto named j) fs
    simpa [writeFields, fieldTokens] using fields

end

/-- The text of a value is cut into its tokens. -/
theorem scan_text (j : Json) : scan j.text = j.tokens :=
  (closes_writeOnto spells_empty j).scan

end Perimeter.Json
