import LoopScope.Json.Parser
import LoopScope.Proofs.Json.Scan
/-!
# Printed values are read back

A value is plain if its numbers are natural and its strings are text. The reader takes the print of
a plain value for that value, wherever it stands in a text and with whatever fuel is no less than
the length of the print.
-/
namespace LoopScope.Json

/-- A value that says nothing but what its content says: no number and no literal is kept as it is
written. -/
inductive Plain : Json → Prop
  | null : Plain .null
  | bool (b : Bool) : Plain (.bool b)
  | natural (n : Nat) : Plain (.natural n)
  | string (s : String) : Plain (.string (.text s))
  | array {elements : List Json} (plain : ∀ j ∈ elements, Plain j) : Plain (.array elements)
  | object {fields : List (Literal × Json)} (keys : ∀ f ∈ fields, ∃ s, f.1 = .text s)
      (plain : ∀ f ∈ fields, Plain f.2) : Plain (.object fields)

/-- The print of a value is read as that value, and what follows it is left. -/
def ReadsBack (j : Json) : Prop :=
  ∀ (fuel : Nat) (rest : List Char), j.print.length ≤ fuel → Ends rest →
    readWith fuel (j.print ++ rest) = some (j, rest)

theorem skipBlanks_cons {c : Char} (h : isBlank c = false) (s : List Char) :
    skipBlanks (c :: s) = c :: s :=
  List.dropWhile_cons_of_neg (by simp [h])

/-! ## Words -/

/-- Two characters differ if one of them is in a class and the other is not. -/
theorem ne_of_class {p : Char → Bool} {c d : Char} (h : p c = true) (hd : p d = false) : c ≠ d := by
  rintro rfl
  rw [h] at hd
  cases hd

theorem isBlank_of_isDigit {c : Char} (h : c.isDigit = true) : isBlank c = false := by
  simp only [isBlank, Bool.or_eq_false_iff, beq_eq_false_iff_ne]
  exact ⟨⟨⟨ne_of_class h rfl, ne_of_class h rfl⟩, ne_of_class h rfl⟩, ne_of_class h rfl⟩

theorem exists_digit (n : Nat) : ∃ c s, Nat.toDigits 10 n = c :: s ∧ c.isDigit = true := by
  cases h : Nat.toDigits 10 n with
  | nil => exact (Nat.toDigits_ne_nil h).elim
  | cons c s => exact ⟨c, s, rfl, isDigit_of_mem_toDigits c (h ▸ List.mem_cons_self)⟩

theorem readsBack_natural (n : Nat) : ReadsBack (.natural n) := by
  intro fuel rest hfuel hrest
  obtain ⟨c, s, hprint, hdigit⟩ := exists_digit n
  have hnumber := readNumber_toDigits n hrest
  rw [print] at hfuel ⊢
  rw [hprint] at hfuel hnumber ⊢
  cases fuel with
  | zero => simp at hfuel
  | succ fuel =>
    rw [List.cons_append] at hnumber ⊢
    rw [readWith, skipBlanks_cons (isBlank_of_isDigit hdigit)]
    split
    case h_7 => exact hnumber
    all_goals
      rename_i heq
      cases heq
      cases hdigit

theorem readsBack_string (s : String) : ReadsBack (.string (.text s)) := by
  intro fuel rest hfuel _
  cases fuel with
  | zero => simp [print, Literal.print] at hfuel
  | succ fuel =>
    have hsplit : (Json.string (.text s)).print ++ rest =
        '"' :: (escape s.toList ++ '"' :: rest) := by
      simp [print, Literal.print]
    calc readWith (fuel + 1) ((Json.string (.text s)).print ++ rest)
        = (readLiteral (escape s.toList ++ '"' :: rest)).map fun p => (Json.string p.1, p.2) := by
          rw [hsplit]
          rfl
      _ = some (.string (.text s), rest) := by
          rw [readLiteral_escape]
          rfl

/-! ## Elements and fields -/

theorem readElements_comma {fuel : Nat} {s rest : List Char} {j : Json}
    (h : readWith fuel s = some (j, rest)) :
    readElements (fuel + 1) (',' :: s) =
      (readElements fuel rest).map fun p => (j :: p.1, p.2) := by
  have hcomma : skipBlanks (',' :: s) = ',' :: s := skipBlanks_cons rfl s
  simp only [readElements, hcomma, h]

theorem ends_printElements (js : List Json) (rest : List Char) :
    Ends (printElements js ++ ']' :: rest) := by
  cases js with
  | nil => exact ends_cons (by decide) rest
  | cons j js => exact ends_cons (by decide) _

theorem readElements_print {js : List Json} (h : ∀ j ∈ js, ReadsBack j) (fuel : Nat)
    (rest : List Char) (hfuel : (printElements js).length < fuel) :
    readElements fuel (printElements js ++ ']' :: rest) = some (js, rest) := by
  induction js generalizing fuel with
  | nil =>
    cases fuel with
    | zero => cases hfuel
    | succ fuel => rfl
  | cons j js ih =>
    cases fuel with
    | zero => cases hfuel
    | succ fuel =>
      simp only [printElements, List.length_cons, List.length_append] at hfuel
      have hj := h j List.mem_cons_self fuel _ (by omega) (ends_printElements js rest)
      have hjs := ih (fun j hm => h j (List.mem_cons_of_mem _ hm)) fuel (by omega)
      have hsplit : printElements (j :: js) ++ ']' :: rest =
          ',' :: (j.print ++ (printElements js ++ ']' :: rest)) := by
        simp [printElements]
      rw [hsplit, readElements_comma hj, hjs]
      rfl

theorem readKey_print (s : String) (rest : List Char) :
    readKey ((Literal.text s).print ++ ':' :: rest) = some (.text s, rest) := by
  have hquote (t : List Char) : skipBlanks ('"' :: t) = '"' :: t := skipBlanks_cons rfl t
  have hcolon : skipBlanks (':' :: rest) = ':' :: rest := skipBlanks_cons rfl rest
  simp only [readKey, Literal.print, List.cons_append, List.append_assoc, List.nil_append, hquote,
    readLiteral_escape, hcolon]

/-- A brace after a field says that it is the last one. -/
theorem readField_last {fuel : Nat} {s t rest left : List Char} {key : Literal} {j : Json}
    (hkey : readKey s = some (key, t)) (hvalue : readWith fuel t = some (j, rest))
    (hrest : skipBlanks rest = '\x7d' :: left) :
    readField (fuel + 1) s = some ([(key, j)], left) := by
  simp only [readField, hkey, hvalue, hrest]

theorem readField_comma {fuel : Nat} {s t rest left : List Char} {key : Literal} {j : Json}
    (hkey : readKey s = some (key, t)) (hvalue : readWith fuel t = some (j, rest))
    (hrest : skipBlanks rest = ',' :: left) :
    readField (fuel + 1) s = (readField fuel left).map fun p => ((key, j) :: p.1, p.2) := by
  simp only [readField, hkey, hvalue, hrest]

theorem ends_printFields (fields : List (Literal × Json)) (rest : List Char) :
    Ends (printFields fields ++ '\x7d' :: rest) := by
  cases fields with
  | nil => exact ends_cons (by decide) rest
  | cons f fields => exact ends_cons (by decide) _

/-- Fields as they stand between braces. -/
theorem readField_print {s : String} {j : Json} {fields : List (Literal × Json)}
    (hj : ReadsBack j) (hkeys : ∀ f ∈ fields, ∃ s, f.1 = .text s)
    (hfields : ∀ f ∈ fields, ReadsBack f.2) (fuel : Nat) (rest : List Char)
    (hfuel : j.print.length + (printFields fields).length < fuel) :
    readField fuel ((Literal.text s).print ++ ':' ::
        (j.print ++ (printFields fields ++ '\x7d' :: rest))) =
      some ((.text s, j) :: fields, rest) := by
  induction fields generalizing s j fuel with
  | nil =>
    cases fuel with
    | zero => cases hfuel
    | succ fuel =>
      have hvalue := hj fuel _ (by omega) (ends_printFields [] rest)
      exact readField_last (readKey_print s _) hvalue rfl
  | cons f fields ih =>
    cases fuel with
    | zero => cases hfuel
    | succ fuel =>
      obtain ⟨key, next⟩ := f
      obtain ⟨name, rfl⟩ : ∃ name, key = .text name := hkeys _ List.mem_cons_self
      have hnextBack : ReadsBack next := hfields _ List.mem_cons_self
      simp only [printFields, List.length_cons, List.length_append] at hfuel
      have hvalue := hj fuel _ (by omega)
        (ends_printFields ((.text name, next) :: fields) rest)
      have hnext := ih (s := name) hnextBack (fun f hm => hkeys f (List.mem_cons_of_mem _ hm))
        (fun f hm => hfields f (List.mem_cons_of_mem _ hm)) fuel (by omega)
      have hsplit : printFields ((.text name, next) :: fields) ++ '\x7d' :: rest =
          ',' :: ((Literal.text name).print ++ ':' ::
            (next.print ++ (printFields fields ++ '\x7d' :: rest))) := by
        simp [printFields]
      rw [hsplit] at hvalue ⊢
      rw [readField_comma (readKey_print s _) hvalue rfl, hnext]
      rfl

/-! ## Whole values -/

/-- The first character of a print. -/
theorem Plain.exists_head {j : Json} (h : j.Plain) :
    ∃ c s, j.print = c :: s ∧ isBlank c = false ∧ c ≠ ']' := by
  cases h with
  | null => exact ⟨_, _, rfl, by decide, by decide⟩
  | bool b => cases b <;> exact ⟨_, _, rfl, by decide, by decide⟩
  | natural n =>
    obtain ⟨c, s, hprint, hdigit⟩ := exists_digit n
    exact ⟨c, s, hprint, isBlank_of_isDigit hdigit, ne_of_class hdigit rfl⟩
  | string s => exact ⟨_, _, rfl, by decide, by decide⟩
  | @array elements plain => cases elements <;> exact ⟨_, _, rfl, by decide, by decide⟩
  | @object fields keys plain => cases fields <;> exact ⟨_, _, rfl, by decide, by decide⟩

/-- An opening bracket that no closing one follows at once. -/
theorem readWith_bracket {fuel : Nat} {c : Char} {s rest : List Char} {j : Json}
    (hblank : isBlank c = false) (hbracket : c ≠ ']')
    (h : readWith fuel (c :: s) = some (j, rest)) :
    readWith (fuel + 1) ('[' :: c :: s) =
      (readElements fuel rest).map fun p => (.array (j :: p.1), p.2) := by
  have hopen : skipBlanks ('[' :: c :: s) = '[' :: c :: s := skipBlanks_cons rfl _
  simp only [readWith, hopen, skipBlanks_cons hblank]
  split
  · rename_i heq
    exact (hbracket (List.cons.inj heq).1).elim
  · simp only [h]

theorem readsBack_array {j : Json} {js : List Json} (hj : j.Plain) (h : ReadsBack j)
    (hjs : ∀ j ∈ js, ReadsBack j) : ReadsBack (.array (j :: js)) := by
  intro fuel rest hfuel _
  simp only [print, List.length_cons, List.length_append, List.length_nil] at hfuel
  cases fuel with
  | zero => simp at hfuel
  | succ fuel =>
    obtain ⟨c, s, hprint, hblank, hbracket⟩ := hj.exists_head
    have hfirst := h fuel _ (by omega) (ends_printElements js rest)
    have hsplit : (Json.array (j :: js)).print ++ rest =
        '[' :: (j.print ++ (printElements js ++ ']' :: rest)) := by
      simp [print]
    rw [hsplit]
    rw [hprint, List.cons_append] at hfirst ⊢
    rw [readWith_bracket hblank hbracket hfirst, readElements_print hjs fuel rest (by omega)]
    rfl

theorem readsBack_object {s : String} {j : Json} {fields : List (Literal × Json)}
    (hj : ReadsBack j) (hkeys : ∀ f ∈ fields, ∃ s, f.1 = .text s)
    (hfields : ∀ f ∈ fields, ReadsBack f.2) : ReadsBack (.object ((.text s, j) :: fields)) := by
  intro fuel rest hfuel _
  simp only [print, List.length_cons, List.length_append, List.length_nil] at hfuel
  cases fuel with
  | zero => simp at hfuel
  | succ fuel =>
    have hsplit : (Json.object ((.text s, j) :: fields)).print ++ rest =
        '\x7b' :: ((Literal.text s).print ++ ':' ::
          (j.print ++ (printFields fields ++ '\x7d' :: rest))) := by
      simp [print]
    calc readWith (fuel + 1) ((Json.object ((.text s, j) :: fields)).print ++ rest)
        = (readField fuel ((Literal.text s).print ++ ':' ::
            (j.print ++ (printFields fields ++ '\x7d' :: rest)))).map
              fun p => (Json.object p.1, p.2) := by
          rw [hsplit]
          rfl
      _ = some (.object ((.text s, j) :: fields), rest) := by
          rw [readField_print hj hkeys hfields fuel rest (by omega)]
          rfl

theorem Plain.readsBack {j : Json} (h : j.Plain) : j.ReadsBack := by
  induction h with
  | null =>
    intro fuel rest hfuel _
    cases fuel with
    | zero => cases hfuel
    | succ fuel => rfl
  | bool b =>
    intro fuel rest hfuel _
    cases fuel with
    | zero => cases b <;> cases hfuel
    | succ fuel => cases b <;> rfl
  | natural n => exact readsBack_natural n
  | string s => exact readsBack_string s
  | @array elements plain ih =>
    cases elements with
    | nil =>
      intro fuel rest hfuel _
      cases fuel with
      | zero => cases hfuel
      | succ fuel => rfl
    | cons j js =>
      exact readsBack_array (plain j List.mem_cons_self) (ih j List.mem_cons_self)
        fun j hm => ih j (List.mem_cons_of_mem _ hm)
  | @object fields keys plain ih =>
    cases fields with
    | nil =>
      intro fuel rest hfuel _
      cases fuel with
      | zero => cases hfuel
      | succ fuel => rfl
    | cons f fields =>
      obtain ⟨key, j⟩ := f
      obtain ⟨name, rfl⟩ : ∃ name, key = .text name := keys _ List.mem_cons_self
      exact readsBack_object (ih _ List.mem_cons_self)
        (fun f hm => keys f (List.mem_cons_of_mem _ hm))
        fun f hm => ih f (List.mem_cons_of_mem _ hm)

/-- The text of a plain value is read as that value, and nothing is left. -/
theorem Plain.readValue_print {j : Json} (h : j.Plain) : readValue j.print = some (j, []) := by
  have hread := h.readsBack (j.print.length + 1) [] (Nat.le_succ _) ends_nil
  rwa [List.append_nil] at hread

theorem Plain.parse?_render {j : Json} (h : j.Plain) : parse? j.render = some j := by
  rw [parse?, render, String.toList_ofList, h.readValue_print]
  rfl

end LoopScope.Json
