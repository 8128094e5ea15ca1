import Mathlib.Data.List.DropRight
import Perimeter.Text.Blank
import Perimeter.Text.Case

/-!
# Trimming and lower-casing

What becomes of a text on its way into a row:

* `trim_eq_empty`, `length_trim_le`: trimming leaves nothing of a blank text and something of any
  other, and makes no text longer;
* `trim_trim`: a trimmed text stays as it is;
* `lower_lower`: a text in lower case stays as it is, since no run of capitals is mapped into
  another run (`runs_apart`);
* `lower_eq_of_toLower`: capitals of ASCII may be lower-cased first;
* `length_lower`: lower-casing makes a text longer by one character for each `İ` in it.
-/

namespace Perimeter.Text

/-! ## Trimming -/

theorem trimFront_eq_nil {cs : List Char} : trimFront cs = [] ↔ ∀ c ∈ cs, isBlankChar c = true :=
  List.dropWhile_eq_nil_iff

theorem trimChars_eq_nil {cs : List Char} : trimChars cs = [] ↔ ∀ c ∈ cs, isBlankChar c = true := by
  have again : trimFront (trimFront cs) = trimFront cs := List.dropWhile_idempotent isBlankChar cs
  rw [trimChars, List.reverse_eq_nil_iff, trimFront_eq_nil]
  simp only [List.mem_reverse]
  rw [← trimFront_eq_nil, again, trimFront_eq_nil]

theorem trim_eq_empty {s : String} : trim s = "" ↔ isBlank s = true := by
  rw [← String.toList_eq_nil_iff, trim, String.toList_ofList, trimChars_eq_nil, isBlank,
    List.all_eq_true]

/-- What is left starts with no blank. -/
theorem trimFront_trimChars (cs : List Char) : trimFront (trimChars cs) = trimChars cs := by
  rw [trimFront, List.dropWhile_eq_self_iff]
  intro some
  -- the blanks that went last went from the other end
  have front : trimChars cs <+: trimFront cs := List.rdropWhile_prefix isBlankChar (trimFront cs)
  rw [front.getElem some]
  exact List.dropWhile_get_zero_not isBlankChar cs (Nat.lt_of_lt_of_le some front.length_le)

theorem trim_trim (s : String) : trim (trim s) = trim s := by
  have again : trimChars (trimChars s.toList) = trimChars s.toList := by
    rw [trimChars, trimFront_trimChars]
    exact List.rdropWhile_idempotent isBlankChar (trimFront s.toList)
  rw [trim, trim, String.toList_ofList, again]

theorem isBlank_trim (s : String) : isBlank (trim s) = isBlank s := by
  rw [Bool.eq_iff_iff, ← trim_eq_empty, trim_trim, trim_eq_empty]

theorem length_trim_le (s : String) : (trim s).length ≤ s.length := by
  rw [trim, String.length_ofList, trimChars, List.length_reverse, ← String.length_toList]
  calc (trimFront (trimFront s.toList).reverse).length
      ≤ (trimFront s.toList).reverse.length := List.length_dropWhile_le _ _
    _ = (trimFront s.toList).length := List.length_reverse
    _ ≤ s.toList.length := List.length_dropWhile_le _ _

/-! ## Runs of capitals -/

/-- The code point to which the first of a run is mapped. -/
def CaseRun.low (r : CaseRun) : Nat := (r.first + r.shift).toNat

/-- Whether a code point belongs to a run. -/
def CaseRun.covers (r : CaseRun) (n : Nat) : Bool :=
  r.first ≤ n && n ≤ r.last && (n - r.first) % r.step = 0

-- `Nat.blt` and not `<`, since the check of all pairs of runs evaluates this
/-- Whether a run has no member in an interval of code points. -/
def CaseRun.outside (q : CaseRun) (low high : Nat) : Bool :=
  Nat.blt high q.first || Nat.blt q.last low

/-- A run is mapped to code points that lie apart from another run, or between its members. -/
def CaseRun.misses (r q : CaseRun) : Bool :=
  q.outside r.low (r.low + (r.last - r.first))
    || (q.step = 2 && (r.step = 2 || r.first = r.last) && (r.low + q.first) % 2 = 1)

/-- The one character that becomes two, as a run. -/
def dotted : CaseRun := ⟨0x130, 0x130, 1, 0⟩

/-- Capitals are mapped to no capitals. -/
theorem runs_apart : lowerRuns.all (fun r => 0 ≤ r.first + r.shift && (r.step = 1 || r.step = 2) &&
    r.misses dotted && lowerRuns.all r.misses) = true := by
  decide +kernel

theorem caseRun?_eq_find? (n : Nat) : caseRun? n = lowerRuns.find? fun r => r.covers n := rfl

theorem covers_of_misses {r q : CaseRun} (start : 0 ≤ r.first + r.shift)
    (step : r.step = 1 ∨ r.step = 2) (misses : r.misses q = true) {n : Nat}
    (member : r.covers n = true) : q.covers (n + r.shift).toNat = false := by
  rw [Bool.eq_false_iff]
  intro covered
  simp only [CaseRun.misses, CaseRun.outside, CaseRun.covers, Bool.or_eq_true, Bool.and_eq_true,
    Nat.blt_eq, decide_eq_true_eq] at misses member covered
  have low : (r.low : Int) = r.first + r.shift := Int.toNat_of_nonneg start
  obtain ⟨⟨first, last⟩, place⟩ := member
  obtain ⟨⟨least, most⟩, between⟩ := covered
  obtain (before | after) | ⟨⟨two, even⟩, odd⟩ := misses
  · omega
  · omega
  · rw [two] at between
    obtain one | two := step
    · omega
    · rw [two] at place
      omega

/-- What a capital is mapped to belongs to no run. -/
theorem lowered_apart {n : Nat} {r : CaseRun} (found : caseRun? n = some r) :
    caseRun? (n + r.shift).toNat = none ∧ (n + r.shift).toNat ≠ 0x130 := by
  rw [caseRun?_eq_find?] at found ⊢
  have listed := List.mem_of_find?_eq_some found
  have member : r.covers n = true := List.find?_some (p := fun r : CaseRun => r.covers n) found
  have apart := List.all_eq_true.mp runs_apart r listed
  simp only [Bool.and_eq_true, Bool.or_eq_true, decide_eq_true_eq, List.all_eq_true] at apart
  obtain ⟨⟨⟨start, step⟩, alone⟩, others⟩ := apart
  constructor
  · rw [List.find?_eq_none]
    intro q known
    rw [covers_of_misses start step (others q known) member]
    exact Bool.false_ne_true
  · intro same
    have free := covers_of_misses start step alone member
    rw [same] at free
    cases free

/-! ## Lower case, character by character -/

/-- Lower-casing leaves the character as it is, wherever it stands. -/
def IsSettled (c : Char) : Prop := c ≠ 'Σ' ∧ lowerChar c = [c]

instance (c : Char) : Decidable (IsSettled c) := inferInstanceAs (Decidable (_ ∧ _))

theorem lowerChar_ascii {c : Char} (ascii : c.toNat < 128) : lowerChar c = [c.toLower] :=
  if_pos ascii

theorem lowerChar_of_run {c : Char} (wide : ¬ c.toNat < 128) (other : c.toNat ≠ 0x130)
    {r : CaseRun} (found : caseRun? c.toNat = some r) :
    lowerChar c = [Char.ofNat (c.toNat + r.shift).toNat] := by
  simp only [lowerChar, if_neg wide, if_neg other, found]

theorem lowerChar_of_none {c : Char} (wide : ¬ c.toNat < 128) (other : c.toNat ≠ 0x130)
    (free : caseRun? c.toNat = none) : lowerChar c = [c] := by
  simp only [lowerChar, if_neg wide, if_neg other, free]

theorem toNat_eq_dotted {c : Char} : c.toNat = 0x130 ↔ c = 'İ' :=
  ⟨fun same => Char.toNat_inj.mp same, fun same => same ▸ rfl⟩

/-- A character stays as it is, or is a capital of ASCII, given by its place in the alphabet. -/
theorem toLower_cases (c : Char) : c.toLower = c ∨ ∃ n < 26, c = Char.ofNat (65 + n) := by
  unfold Char.toLower
  split
  · next upper =>
    right
    have first : 65 ≤ c.toNat := UInt32.le_iff_toNat_le.mp upper.1
    have last : c.toNat ≤ 90 := UInt32.le_iff_toNat_le.mp upper.2
    refine ⟨c.toNat - 65, by omega, ?_⟩
    rw [show 65 + (c.toNat - 65) = c.toNat by omega, c.ofNat_toNat]
  · exact Or.inl rfl

theorem toLower_of_wide {c : Char} (wide : ¬ c.toNat < 128) : c.toLower = c := by
  obtain same | ⟨n, less, rfl⟩ := toLower_cases c
  · exact same
  · revert n
    decide

theorem ascii_settles : ∀ n < 128, IsSettled (Char.ofNat n).toLower ∧
    (caseRun? n = none → (Char.ofNat n).toLower = Char.ofNat n) := by
  decide +kernel

/-- A character in no run is settled, if it is not the one that becomes two. -/
theorem isSettled_of_free {c : Char} (free : caseRun? c.toNat = none) (other : c.toNat ≠ 0x130) :
    IsSettled c := by
  constructor
  · rintro rfl
    revert free
    decide +kernel
  · by_cases ascii : c.toNat < 128
    · have same := (ascii_settles c.toNat ascii).2 free
      rw [c.ofNat_toNat] at same
      rw [lowerChar_ascii ascii, same]
    · exact lowerChar_of_none ascii other free

/-- A number gives the character of that number, or of zero where there is none. -/
theorem ofNat_cases (n : Nat) : (Char.ofNat n).toNat = n ∨ Char.ofNat n = '\x00' := by
  by_cases valid : n.isValidChar
  · exact Or.inl (congrArg Char.toNat (dif_pos valid))
  · exact Or.inr (dif_neg valid)

theorem isSettled_of_mem_lowerChar {c d : Char} (mem : d ∈ lowerChar c) : IsSettled d := by
  by_cases ascii : c.toNat < 128
  · rw [lowerChar_ascii ascii, List.mem_singleton] at mem
    have settled := (ascii_settles c.toNat ascii).1
    rw [c.ofNat_toNat] at settled
    exact mem ▸ settled
  · by_cases double : c.toNat = 0x130
    · rw [toNat_eq_dotted.mp double] at mem
      have both : (lowerChar 'İ').all (fun d => decide (IsSettled d)) = true := by decide +kernel
      exact of_decide_eq_true (List.all_eq_true.mp both d mem)
    · cases run : caseRun? c.toNat with
      | none =>
        rw [lowerChar_of_none ascii double run, List.mem_singleton] at mem
        rw [mem]
        exact isSettled_of_free run double
      | some r =>
        obtain ⟨free, other⟩ := lowered_apart run
        rw [lowerChar_of_run ascii double run, List.mem_singleton] at mem
        rw [mem]
        obtain code | null := ofNat_cases (c.toNat + r.shift).toNat
        · rw [← code] at free other
          exact isSettled_of_free free other
        · rw [null]
          decide +kernel

theorem toLower_of_isSettled {c : Char} (settled : IsSettled c) : c.toLower = c := by
  by_cases ascii : c.toNat < 128
  · have same := (lowerChar_ascii ascii).symm.trans settled.2
    exact List.singleton_inj.mp same
  · exact toLower_of_wide ascii

theorem length_lowerChar (c : Char) : (lowerChar c).length = 1 + if c = 'İ' then 1 else 0 := by
  by_cases ascii : c.toNat < 128
  · have other : c ≠ 'İ' := by
      rintro rfl
      revert ascii
      decide
    rw [lowerChar_ascii ascii, if_neg other]
    rfl
  · by_cases double : c.toNat = 0x130
    · rw [toNat_eq_dotted.mp double, if_pos rfl]
      decide +kernel
    · rw [if_neg (mt toNat_eq_dotted.mpr double)]
      cases run : caseRun? c.toNat with
      | none => rw [lowerChar_of_none ascii double run]; rfl
      | some r => rw [lowerChar_of_run ascii double run]; rfl

/-! ## Lower case -/

theorem isSettled_of_mem_lowerFrom {before cs : List Char} {d : Char}
    (mem : d ∈ lowerFrom before cs) : IsSettled d := by
  have sigmas : IsSettled 'ς' ∧ IsSettled 'σ' := by decide +kernel
  induction cs generalizing before with
  | nil => cases mem
  | cons c cs ih =>
    rw [lowerFrom, List.mem_append] at mem
    obtain here | later := mem
    · split at here
      · split at here
        · rw [List.mem_singleton.mp here]
          exact sigmas.1
        · rw [List.mem_singleton.mp here]
          exact sigmas.2
      · exact isSettled_of_mem_lowerChar here
    · exact ih later

theorem lowerFrom_of_isSettled {before cs : List Char} (settled : ∀ c ∈ cs, IsSettled c) :
    lowerFrom before cs = cs := by
  induction cs generalizing before with
  | nil => rfl
  | cons c cs ih =>
    obtain ⟨⟨plain, same⟩, rest⟩ := List.forall_mem_cons.mp settled
    rw [lowerFrom, if_neg plain, same, ih rest]
    rfl

/-- A text in lower case stays as it is. -/
theorem lower_lower (s : String) : lower (lower s) = lower s := by
  rw [lower, lower, String.toList_ofList,
    lowerFrom_of_isSettled fun _ mem => isSettled_of_mem_lowerFrom mem]

theorem map_toLower_lower (s : String) : (lower s).toList.map Char.toLower = (lower s).toList := by
  rw [lower, String.toList_ofList]
  conv => rhs; rw [← List.map_id (lowerFrom [] s.toList)]
  apply List.map_congr_left
  intro c mem
  exact toLower_of_isSettled (isSettled_of_mem_lowerFrom mem)

/-- Lower-casing makes a text longer by one character for each `İ` in it. -/
theorem length_lower (s : String) : (lower s).length = s.length + s.toList.count 'İ' := by
  have all : ∀ before cs, (lowerFrom before cs).length = cs.length + cs.count 'İ' := by
    intro before cs
    induction cs generalizing before with
    | nil => rfl
    | cons c cs ih =>
      rw [lowerFrom, List.length_append, ih, List.length_cons, List.count_cons]
      by_cases sigma : c = 'Σ'
      · rw [if_pos sigma, sigma]
        split <;> simp +arith
      · rw [if_neg sigma, length_lowerChar]
        simp only [beq_iff_eq]
        omega
  rw [lower, String.length_ofList, all, String.length_toList]

/-! ## Capitals of ASCII -/

theorem capitals_alike : ∀ n < 26, let c := Char.ofNat (65 + n)
    lowerChar c.toLower = lowerChar c ∧ (c.toLower = 'Σ' ↔ c = 'Σ') ∧
      isCased c.toLower = isCased c ∧ isCaseIgnorable c.toLower = isCaseIgnorable c := by
  decide +kernel

theorem alike (c : Char) : lowerChar c.toLower = lowerChar c ∧ (c.toLower = 'Σ' ↔ c = 'Σ') ∧
    isCased c.toLower = isCased c ∧ isCaseIgnorable c.toLower = isCaseIgnorable c := by
  obtain same | ⟨n, less, rfl⟩ := toLower_cases c
  · rw [same]
    exact ⟨rfl, Iff.rfl, rfl, rfl⟩
  · exact capitals_alike n less

theorem startsCased_map_toLower (cs : List Char) :
    startsCased (cs.map Char.toLower) = startsCased cs := by
  have passed : isCaseIgnorable ∘ Char.toLower = isCaseIgnorable := by
    funext c
    exact (alike c).2.2.2
  rw [startsCased, List.dropWhile_map, passed, startsCased]
  cases cs.dropWhile isCaseIgnorable with
  | nil => rfl
  | cons c _ => exact (alike c).2.2.1

theorem lowerFrom_map_toLower (before cs : List Char) :
    lowerFrom (before.map Char.toLower) (cs.map Char.toLower) = lowerFrom before cs := by
  induction cs generalizing before with
  | nil => rfl
  | cons c cs ih =>
    obtain ⟨mapped, sigma, _⟩ := alike c
    have rest := ih (c :: before)
    rw [List.map_cons] at rest
    simp only [List.map_cons, lowerFrom, sigma, mapped, startsCased_map_toLower, rest]

/-- Texts that agree up to the case of ASCII letters agree in lower case. -/
theorem lower_eq_of_toLower {s t : String}
    (same : s.toList.map Char.toLower = t.toList.map Char.toLower) : lower s = lower t := by
  have from_lower : ∀ u : String,
      lower u = String.ofList (lowerFrom [] (u.toList.map Char.toLower)) := fun u =>
    congrArg String.ofList (lowerFrom_map_toLower [] u.toList).symm
  rw [from_lower s, from_lower t, same]

end Perimeter.Text
