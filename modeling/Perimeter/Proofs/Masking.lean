import Mathlib.Data.List.Infix
import Perimeter.Sql.Address

/-!
# Masked addresses

What is logged of the address of a database tells nothing of the password. The address is cut three
times, at the first `://`, at the last `@`, and at the first `:` between them, and all three marks
may stand in the password too. They are found at the right place all the same: the scheme, the user
and the host are free of the mark that ends or begins them, and no mark overlaps itself
(`splitFirst?_eq_some_iff`, `splitLast?_eq_some_iff`). So the password may be any text
(`Parts.maskedChars_eq`), and a masked address, whose password is the mask, is masked as it is.
-/

namespace Perimeter.Sql.Address

variable {mark a b cs : List Char} {m : Char}

/-! ## Splitting -/

/-- No proper part of a mark both begins and ends it, so no two places of it overlap. -/
def Unbordered (mark : List Char) : Prop := ∀ t, t ≠ [] → t <:+ mark → t <+: mark → t = mark

theorem unbordered_singleton (m : Char) : Unbordered [m] := by
  intro t nonempty ends _
  obtain rfl | rest := List.suffix_cons_iff.mp ends
  · rfl
  · exact absurd (List.suffix_nil.mp rest) nonempty

theorem unbordered_schemeEnd : Unbordered "://".toList := by
  change Unbordered [':', '/', '/']
  intro t nonempty ends begins
  -- of the ends of the mark that are not empty, only the whole one begins with a colon
  simp only [List.suffix_cons_iff, List.suffix_nil] at ends
  obtain rfl | rfl | rfl | rfl := ends
  · rfl
  · simp at begins
  · simp at begins
  · exact absurd rfl nonempty

/-- A mark does not begin within a text that is free of it, also if it follows on that text. -/
theorem not_prefix_append (unbordered : Unbordered mark) (nonempty : a ≠ [])
    (free : ¬ mark <:+: a) : ¬ mark <+: a ++ mark ++ b := by
  intro begins
  rw [List.append_assoc] at begins
  obtain inside | ⟨t, rfl⟩ := List.prefix_or_prefix_of_prefix begins (List.prefix_append a _)
  · exact free inside.isInfix
  · -- the mark sticks out of the text, and what sticks out begins the mark as well
    rw [List.prefix_append_right_inj] at begins
    have overlap : t <+: a ++ t := by
      apply List.prefix_of_prefix_length_le begins (List.prefix_append _ _)
      simp
    by_cases last : t = []
    · subst last
      apply free
      simp
    · have whole := unbordered t last (List.suffix_append a t) overlap
      exact nonempty (List.self_eq_append_left.mp whole)

/-- The first place of a mark is the one before which the text is free of it. -/
theorem splitFirst?_eq_some_iff (unbordered : Unbordered mark) (nonempty : mark ≠ []) :
    splitFirst? mark cs = some (a, b) ↔ cs = a ++ mark ++ b ∧ ¬ mark <:+: a := by
  induction cs generalizing a with
  | nil =>
    cases mark with
    | nil => exact absurd rfl nonempty
    | cons m rest => simp [splitFirst?]
  | cons c cs ih =>
    unfold splitFirst?
    split
    · next begins =>
      rw [List.isPrefixOf_iff_prefix] at begins
      constructor
      · intro found
        cases found
        obtain ⟨rest, whole⟩ := begins
        rw [← whole, List.drop_left]
        exact ⟨rfl, fun inside => nonempty (List.infix_nil.mp inside)⟩
      · rintro ⟨whole, free⟩
        by_cases first : a = []
        · subst first
          rw [whole]
          simp
        · rw [whole] at begins
          exact absurd begins (not_prefix_append unbordered first free)
    · next later =>
      rw [List.isPrefixOf_iff_prefix] at later
      rw [Option.map_eq_some_iff]
      constructor
      · rintro ⟨⟨a', b'⟩, found, same⟩
        cases same
        obtain ⟨rfl, free⟩ := ih.mp found
        refine ⟨rfl, ?_⟩
        rw [List.infix_cons_iff, not_or]
        refine ⟨fun begins => later (begins.trans ?_), free⟩
        simp
      · rintro ⟨whole, free⟩
        cases a with
        | nil =>
          rw [whole] at later
          exact absurd (by simp) later
        | cons d a =>
          obtain ⟨rfl, rfl⟩ := List.cons.inj whole
          rw [List.infix_cons_iff, not_or] at free
          exact ⟨(a, b), ih.mpr ⟨rfl, free.2⟩, rfl⟩

theorem splitFirst?_singleton_eq_some_iff :
    splitFirst? [m] cs = some (a, b) ↔ cs = a ++ m :: b ∧ m ∉ a := by
  rw [splitFirst?_eq_some_iff (unbordered_singleton m) (List.cons_ne_nil m []),
    List.singleton_infix_iff, List.append_assoc, List.singleton_append]

/-- The last place of a character is the one after which the text is free of it. -/
theorem splitLast?_eq_some_iff :
    splitLast? m cs = some (a, b) ↔ cs = a ++ m :: b ∧ m ∉ b := by
  unfold splitLast?
  rw [Option.map_eq_some_iff]
  constructor
  · rintro ⟨⟨b', a'⟩, found, same⟩
    cases same
    obtain ⟨turned, free⟩ := splitFirst?_singleton_eq_some_iff.mp found
    rw [List.reverse_eq_iff] at turned
    rw [List.mem_reverse]
    exact ⟨by simp [turned], free⟩
  · rintro ⟨rfl, free⟩
    refine ⟨(b.reverse, a.reverse), splitFirst?_singleton_eq_some_iff.mpr ⟨?_, ?_⟩, ?_⟩
    · simp
    · rwa [List.mem_reverse]
    · simp

/-! ## Masking -/

/-- An address is made up of a scheme, a user, a password and a host. Only the password may be any
text. -/
structure Parts (cs scheme user password host : List Char) : Prop where
  whole : cs = scheme ++ "://".toList ++ (user ++ ':' :: password ++ '@' :: host)
  scheme : ¬ "://".toList <:+: scheme
  user : ':' ∉ user
  host : '@' ∉ host

variable {scheme user password host : List Char}

theorem splitScheme_eq_some_iff :
    splitFirst? "://".toList cs = some (a, b) ↔
      cs = a ++ "://".toList ++ b ∧ ¬ "://".toList <:+: a :=
  splitFirst?_eq_some_iff unbordered_schemeEnd (by decide)

/-- Of an address with a password everything else is kept, and the password goes. -/
theorem Parts.maskedChars_eq (parts : Parts cs scheme user password host) :
    maskedChars cs = scheme ++ "://".toList ++ (user ++ ':' :: mask ++ '@' :: host) := by
  have first := splitScheme_eq_some_iff.mpr ⟨parts.whole, parts.scheme⟩
  have second : splitLast? '@' (user ++ ':' :: password ++ '@' :: host) =
      some (user ++ ':' :: password, host) := splitLast?_eq_some_iff.mpr ⟨rfl, parts.host⟩
  have third : splitFirst? [':'] (user ++ ':' :: password) = some (user, password) :=
    splitFirst?_singleton_eq_some_iff.mpr ⟨rfl, parts.user⟩
  simp only [maskedChars, bind, Option.bind, first, second, third]
  simp

/-- With the mask in the place of the password the address is made up of the same parts. -/
theorem Parts.masked (parts : Parts cs scheme user password host) :
    Parts (maskedChars cs) scheme user mask host :=
  ⟨parts.maskedChars_eq, parts.scheme, parts.user, parts.host⟩

/-- An address that is not made up of such parts is kept as it is. -/
theorem maskedChars_cases (cs : List Char) :
    maskedChars cs = cs ∨ ∃ scheme user password host, Parts cs scheme user password host := by
  cases first : splitFirst? "://".toList cs with
  | none =>
    left
    simp only [maskedChars, bind, Option.bind, first, Option.getD_none]
  | some one =>
    cases second : splitLast? '@' one.2 with
    | none =>
      left
      simp only [maskedChars, bind, Option.bind, first, second, Option.getD_none]
    | some two =>
      cases third : splitFirst? [':'] two.1 with
      | none =>
        left
        simp only [maskedChars, bind, Option.bind, first, second, third, Option.getD_none]
      | some three =>
        right
        obtain ⟨whole, scheme⟩ := splitScheme_eq_some_iff.mp first
        obtain ⟨rest, host⟩ := splitLast?_eq_some_iff.mp second
        obtain ⟨credentials, user⟩ := splitFirst?_singleton_eq_some_iff.mp third
        rw [rest, credentials] at whole
        exact ⟨one.1, three.1, three.2, two.2, whole, scheme, user, host⟩

theorem maskedChars_maskedChars (cs : List Char) :
    maskedChars (maskedChars cs) = maskedChars cs := by
  obtain same | ⟨_, _, _, _, parts⟩ := maskedChars_cases cs
  · rw [same, same]
  · rw [parts.masked.maskedChars_eq, parts.maskedChars_eq]

/-- The password of an address may be any text, and the mask takes its place. -/
theorem masked_eq {scheme user host : String} (noMark : ¬ "://".toList <:+: scheme.toList)
    (noColon : ':' ∉ user.toList) (noAt : '@' ∉ host.toList) (password : String) :
    masked (scheme ++ "://" ++ user ++ ":" ++ password ++ "@" ++ host) =
      scheme ++ "://" ++ user ++ ":****@" ++ host := by
  have parts : Parts (scheme ++ "://" ++ user ++ ":" ++ password ++ "@" ++ host).toList
      scheme.toList user.toList password.toList host.toList := by
    refine ⟨?_, noMark, noColon, noAt⟩
    simp
  rw [masked, parts.maskedChars_eq, ← String.toList_inj]
  simp [mask]

/-- What is logged of an address is one text for all passwords, whatever marks stand in them, and
what was masked once is masked as it is. -/
theorem masked_hides_password :
    (∀ scheme user host : String, ¬ "://".toList <:+: scheme.toList → ':' ∉ user.toList →
      '@' ∉ host.toList → ∀ p q : String,
        masked (scheme ++ "://" ++ user ++ ":" ++ p ++ "@" ++ host) =
          masked (scheme ++ "://" ++ user ++ ":" ++ q ++ "@" ++ host) ∧
        masked (scheme ++ "://" ++ user ++ ":" ++ p ++ "@" ++ host) =
          scheme ++ "://" ++ user ++ ":****@" ++ host) ∧
      ∀ address, masked (masked address) = masked address := by
  constructor
  · intro scheme user host noMark noColon noAt p q
    have shown := masked_eq noMark noColon noAt
    exact ⟨(shown p).trans (shown q).symm, shown p⟩
  · intro address
    rw [masked, masked, String.toList_ofList, maskedChars_maskedChars]

/-- A password that holds every mark, beside a user and a host that hold some of them. -/
theorem masked_password_of_marks :
    (¬ "://".toList <:+: "a:/".toList ∧ ':' ∉ "grc@hub".toList ∧ '@' ∉ "db:5432/x://y".toList) ∧
      masked "a:/://grc@hub:p@ss:w/rd://z@db:5432/x://y" =
        masked "a:/://grc@hub:@db:5432/x://y" ∧
      masked "a:/://grc@hub:p@ss:w/rd://z@db:5432/x://y" =
        "a:/://grc@hub:****@db:5432/x://y" := by
  have marks : ¬ "://".toList <:+: "a:/".toList ∧ ':' ∉ "grc@hub".toList ∧
      '@' ∉ "db:5432/x://y".toList := by
    decide
  refine ⟨marks, ?_⟩
  exact masked_hides_password.1 "a:/" "grc@hub" "db:5432/x://y" marks.1 marks.2.1 marks.2.2
    "p@ss:w/rd://z" ""

end Perimeter.Sql.Address
