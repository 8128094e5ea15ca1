import Perimeter.Proofs.Rounding
import Perimeter.Proofs.Scanning

/-!
# Reading what was written

From the tokens of a value its document is put together, whatever stands around it
(`Doc.build_tokens`), and from the document a decoder for any value reads the value again, with
the numbers that 64 bits hold unchanged. What a decoder refuses is exactly what is nested deeper
than it allows (`decodeWithin_text`).
-/

namespace Perimeter.Json

open Token

/-! ## Documents -/

mutual

/-- The document of a value's text. -/
def doc : Json → Doc
  | null => .null
  | bool b => .bool b
  | number n => .number (Counted.ofNumeral n).numeral
  | string s => .string (some s)
  | array js => .array (itemDocs js) true
  | object fs => .object (fieldDocs fs) true

/-- The documents of items. -/
def itemDocs : List Json → List Doc
  | [] => []
  | j :: js => doc j :: itemDocs js

/-- The documents of fields. -/
def fieldDocs : List (String × Json) → List (Option String × Doc)
  | [] => []
  | (name, j) :: fs => (some name, doc j) :: fieldDocs fs

end

namespace Doc

/-- How reading goes on where a value is complete. -/
def resume (v : Doc) (frames : List Frame) (rest : List Token) : Doc × Bool :=
  (settle v frames).elim (v, rest.isEmpty) fun frames => build frames .commaOrEnd rest

variable {frames outer : List Frame} {due : Due} {t : Token} {v : Doc}

theorem build_complete (turned : turn frames due t = .complete v outer) (rest : List Token) :
    build frames due (t :: rest) = resume v outer rest := by
  cases settled : settle v outer <;> simp [build, turned, resume, settled]

/-- Where a value may begin: an item may stand where an array may end. -/
def Due.Takes (due : Due) : Prop := due = .value ∨ due = .itemOrEnd

theorem build_array (takes : due.Takes) (rest : List Token) :
    build frames due (.beginArray :: rest) = build (.items [] :: frames) .itemOrEnd rest := by
  obtain rfl | rfl := takes <;> rfl

theorem build_object (takes : due.Takes) (rest : List Token) :
    build frames due (.beginObject :: rest) = build (.fields [] :: frames) .keyOrEnd rest := by
  obtain rfl | rfl := takes <;> rfl

theorem build_item (done : List Doc) (rest : List Token) :
    build (.items done :: frames) .commaOrEnd (.comma :: rest) =
      build (.items done :: frames) .value rest :=
  rfl

theorem build_key (done : List (Option String × Doc)) (key : Option String) (rest : List Token) :
    build (.fields done :: frames) .keyOrEnd (.string key :: .colon :: rest) =
      build (.member done key :: frames) .value rest :=
  rfl

theorem build_nextKey (done : List (Option String × Doc)) (key : Option String)
    (rest : List Token) :
    build (.fields done :: frames) .commaOrEnd (.comma :: .string key :: .colon :: rest) =
      build (.member done key :: frames) .value rest :=
  rfl

mutual

/-- The tokens of a value are put together to its document, and reading goes on behind them. -/
theorem build_tokens {due : Due} (takes : due.Takes) (frames : List Frame) (rest : List Token) :
    ∀ j : Json, build frames due (j.tokens ++ rest) = resume j.doc frames rest
  | .null => by obtain rfl | rfl := takes <;> exact build_complete rfl rest
  | .bool b => by obtain rfl | rfl := takes <;> exact build_complete rfl rest
  | .number n => by obtain rfl | rfl := takes <;> exact build_complete rfl rest
  | .string s => by obtain rfl | rfl := takes <;> exact build_complete rfl rest
  | .array [] => by
    rw [tokens, List.cons_append, build_array takes]
    exact build_complete rfl rest
  | .array (j :: js) => by
    rw [tokens, List.cons_append, build_array takes, List.append_assoc, List.append_assoc,
      build_tokens (Or.inr rfl)]
    exact build_items js [j.doc] frames rest
  | .object [] => by
    rw [tokens, List.cons_append, build_object takes]
    exact build_complete rfl rest
  | .object ((name, j) :: fs) => by
    rw [tokens, List.cons_append, build_object takes, List.cons_append, List.cons_append,
      build_key, List.append_assoc, List.append_assoc, build_tokens (Or.inl rfl)]
    exact build_fields fs [(some name, j.doc)] frames rest

theorem build_items : ∀ (js : List Json) (done : List Doc) (frames : List Frame)
    (rest : List Token),
    build (.items done :: frames) .commaOrEnd (itemTokens js ++ ([.endArray] ++ rest)) =
      resume (.array (done.reverse ++ itemDocs js) true) frames rest
  | [], done, frames, rest => by
    rw [itemTokens, itemDocs, List.append_nil]
    exact build_complete rfl rest
  | j :: js, done, frames, rest => by
    rw [itemTokens, List.cons_append, build_item, List.append_assoc, build_tokens (Or.inl rfl)]
    have items := build_items js (j.doc :: done) frames rest
    rw [List.reverse_cons, List.append_assoc] at items
    exact items

theorem build_fields : ∀ (fs : List (String × Json)) (done : List (Option String × Doc))
    (frames : List Frame) (rest : List Token),
    build (.fields done :: frames) .commaOrEnd (fieldTokens fs ++ ([.endObject] ++ rest)) =
      resume (.object (done.reverse ++ fieldDocs fs) true) frames rest
  | [], done, frames, rest => by
    rw [fieldTokens, fieldDocs, List.append_nil]
    exact build_complete rfl rest
  | (name, j) :: fs, done, frames, rest => by
    rw [fieldTokens, List.cons_append, List.cons_append, List.cons_append, build_nextKey,
      List.append_assoc, build_tokens (Or.inl rfl)]
    have fields := build_fields fs ((some name, j.doc) :: done) frames rest
    rw [List.reverse_cons, List.append_assoc] at fields
    exact fields

end

/-- What is written is read back whole, and nothing follows it. -/
theorem read_text (j : Json) : read j.text = (j.doc, true) := by
  have value : Due.value.Takes := Or.inl rfl
  have whole := build_tokens value [] [] j
  rw [List.append_nil] at whole
  rw [read, scan_text, whole]
  rfl

end Doc


/-! ## Decoding -/

mutual

/-- A value with its numbers as they are read where they are written. -/
def reread : Json → Json
  | null => null
  | bool b => bool b
  | number n => number (Counted.ofNumeral n).numeral
  | string s => string s
  | array js => array (rereadItems js)
  | object fs => object (rereadFields fs)

/-- The items with their numbers as they are read. -/
def rereadItems : List Json → List Json
  | [] => []
  | j :: js => reread j :: rereadItems js

/-- The fields with their numbers as they are read. -/
def rereadFields : List (String × Json) → List (String × Json)
  | [] => []
  | (name, j) :: fs => (name, reread j) :: rereadFields fs

end

mutual

/-- Numbers are within range where they are read, and no object repeats a name. -/
def Legible : Json → Prop
  | null => True
  | bool _ => True
  | number n => (Counted.ofNumeral n).numeral.isFinite = true
  | string _ => True
  | array js => LegibleItems js
  | object fs => (fs.map Prod.fst).Nodup ∧ LegibleFields fs

/-- Every item is legible. -/
def LegibleItems : List Json → Prop
  | [] => True
  | j :: js => Legible j ∧ LegibleItems js

/-- Every field is legible. -/
def LegibleFields : List (String × Json) → Prop
  | [] => True
  | (_, j) :: fs => Legible j ∧ LegibleFields fs

end

/-! ### Numbers -/

theorem numeral_of_word {n : Nat} (word : n ≤ maxWord64) :
    (Counted.ofNumeral (.int n)).numeral = .int n := by
  have positive : ¬ (n : Int) < 0 := by omega
  simp [Counted.ofNumeral, positive, Counted.ofNat_of_word false word, Counted.numeral]

theorem isFinite_of_lt {n : Nat} (few : n < 10 ^ 39) :
    (Counted.ofNumeral (.int n)).numeral.isFinite = true := by
  have positive : ¬ (n : Int) < 0 := by omega
  have length : (Nat.toDigits 10 n).length ≤ 39 :=
    (Nat.length_toDigits_le_iff (by decide) (by decide)).mpr few
  obtain ⟨d, p, full, whole, word, power⟩ := Counted.ofNat_whole false n
  cases full with
  | false =>
    obtain ⟨m, q, rounded, _⟩ := Binary64.ofDecimal_whole false word
    have positive' : ¬ (d : Int) < 0 := by omega
    simp [Counted.ofNumeral, positive, whole, Counted.numeral, Numeral.isFinite, Numeral.binary,
      Binary64.ofInt, positive', rounded]
  | true =>
    obtain ⟨m, q, rounded⟩ := Binary64.ofSteps_finite false word (by omega : p < 39)
    simp [Counted.ofNumeral, positive, whole, Counted.numeral, Numeral.isFinite, Numeral.binary,
      rounded]

theorem legible_nat {n : Nat} (few : n < 10 ^ 39) : (nat n).Legible := by
  rw [nat, Legible]
  exact isFinite_of_lt few

theorem reread_nat {n : Nat} (word : n ≤ maxWord64) : (nat n).reread = nat n := by
  rw [nat, reread, numeral_of_word word]

/-! ### Values -/

namespace Decoder

theorem putField_of_fresh {name : String} {read : List (String × Json)}
    (fresh : name ∉ read.map Prod.fst) (j : Json) :
    putField name j read = read ++ [(name, j)] := by
  have unused : read.any (·.1 == name) = false := by
    rw [List.any_eq_false]
    intro f mem same
    exact fresh (eq_of_beq same ▸ List.mem_map_of_mem mem)
  rw [putField, unused]
  rfl

mutual

theorem json_doc (levels : Nat) : ∀ j : Json, j.Legible →
    json levels j.doc = if j.nesting ≤ levels then .ok j.reread else .error .malformed
  | .null, _ => by simp [doc, json, nesting, reread]
  | .bool b, _ => by simp [doc, json, nesting, reread]
  | .number n, legible => by
    rw [Legible] at legible
    simp [doc, json, nesting, reread, legible]
  | .string s, _ => by simp [doc, json, nesting, reread]
  | .array js, legible => by
    rw [Legible] at legible
    cases levels with
    | zero => simp [doc, json, nesting]
    | succ levels =>
      rw [doc, json, jsonItems_docs levels js legible, nesting, reread]
      split_ifs with inside outside outside
      · rfl
      · omega
      · omega
      · rfl
  | .object fs, legible => by
    rw [Legible] at legible
    cases levels with
    | zero => simp [doc, json, nesting]
    | succ levels =>
      rw [doc, json, jsonFields_docs levels fs [] legible.2 legible.1, nesting, reread]
      split_ifs with inside outside outside
      · rfl
      · omega
      · omega
      · rfl

theorem jsonItems_docs (levels : Nat) : ∀ js : List Json, LegibleItems js →
    jsonItems levels (itemDocs js) =
      if itemsNesting js ≤ levels then .ok (rereadItems js) else .error .malformed
  | [], _ => by simp [itemDocs, jsonItems, itemsNesting, rereadItems]
  | j :: js, legible => by
    rw [LegibleItems] at legible
    rw [itemDocs, jsonItems, json_doc levels j legible.1, jsonItems_docs levels js legible.2,
      itemsNesting, rereadItems]
    by_cases first : j.nesting ≤ levels
    · by_cases rest : itemsNesting js ≤ levels
      · rw [if_pos first, if_pos rest, if_pos (by omega)]
        rfl
      · rw [if_pos first, if_neg rest, if_neg (by omega)]
        rfl
    · have outside : ¬ max j.nesting (itemsNesting js) ≤ levels := by omega
      rw [if_neg first, if_neg outside]
      rfl

theorem jsonFields_docs (levels : Nat) : ∀ (fs read : List (String × Json)), LegibleFields fs →
    (read.map Prod.fst ++ fs.map Prod.fst).Nodup →
    jsonFields read levels (fieldDocs fs) =
      if fieldsNesting fs ≤ levels then .ok (read ++ rereadFields fs) else .error .malformed
  | [], read, _, _ => by simp [fieldDocs, jsonFields, fieldsNesting, rereadFields]
  | (name, j) :: fs, read, legible, distinct => by
    rw [LegibleFields] at legible
    rw [List.map_cons, List.append_cons] at distinct
    have fresh : name ∉ read.map Prod.fst := by
      have before := (List.nodup_append.mp distinct).1
      intro mem
      exact (List.nodup_append.mp before).2.2 name mem name (List.mem_singleton_self name) rfl
    have further := jsonFields_docs levels fs (read ++ [(name, j.reread)]) legible.2
      (by rw [List.map_append]; exact distinct)
    rw [fieldDocs, jsonFields, json_doc levels j legible.1, fieldsNesting, rereadFields]
    by_cases first : j.nesting ≤ levels
    · rw [if_pos first]
      change jsonFields (putField name j.reread read) levels (fieldDocs fs) = _
      rw [putField_of_fresh fresh, further]
      by_cases rest : fieldsNesting fs ≤ levels
      · rw [if_pos rest, if_pos (by omega)]
        simp
      · rw [if_neg rest, if_neg (by omega)]
    · rw [if_neg first, if_neg (by omega)]
      rfl

end

end Decoder

/-- A decoder accepts the text of a legible value exactly if the value is nested no deeper than it
allows. -/
theorem decodeWithin_text (levels : Nat) {j : Json} (legible : j.Legible) :
    decodeWithin levels Decoder.json j.text =
      if j.nesting ≤ levels then .ok j.reread else .error .malformed := by
  rw [decodeWithin, Doc.read_text]
  change (Decoder.json levels j.doc >>= fun k => Decoder.ended true k) = _
  rw [Decoder.json_doc levels j legible]
  split_ifs <;> rfl

end Perimeter.Json
