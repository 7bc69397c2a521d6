import LoopScope.Proofs.Codec
/-!
# Lines of events

The print of a plain value has no control characters, so a line break in the text of a log ends an
event and does nothing else. Splitting the text at its line breaks and reading each line gives the
events back.
-/
namespace LoopScope

/-! ## What is printed -/

namespace Json

/-- A text without control characters. -/
def Visible (s : List Char) : Prop := ∀ c ∈ s, 32 ≤ c.toNat

instance (s : List Char) : Decidable (Visible s) :=
  List.decidableBAll (fun c : Char => 32 ≤ c.toNat) s

theorem visible_cons {c : Char} {s : List Char} : Visible (c :: s) ↔ 32 ≤ c.toNat ∧ Visible s :=
  List.forall_mem_cons

theorem visible_append {s t : List Char} : Visible (s ++ t) ↔ Visible s ∧ Visible t :=
  List.forall_mem_append

theorem Visible.not_mem {s : List Char} (h : Visible s) {c : Char} (hc : c.toNat < 32) : c ∉ s :=
  fun hm => Nat.not_le_of_lt hc (h c hm)

theorem visible_toDigits (n : Nat) : Visible (Nat.toDigits 10 n) := by
  intro c hm
  have hdigit := isDigit_of_mem_toDigits c hm
  rw [Char.isDigit, Bool.and_eq_true, decide_eq_true_eq] at hdigit
  have hzero : 48 ≤ c.toNat := hdigit.1
  omega

/-- Nothing that stands for a character in a literal is a control character. -/
theorem visible_escaped {c : Char} {written : List Char} (h : Escaped c written) :
    Visible written := by
  cases h with
  | @short l stands ne =>
    have hletter : l = '"' ∨ l = '\\' ∨ l = '/' ∨ l = 'b' ∨ l = 'f' ∨ l = 'n' ∨ l = 'r' ∨
        l = 't' := by
      apply Decidable.byContradiction
      intro hnot
      simp only [not_or] at hnot
      simp [shortEscape?, hnot] at stands
    rcases hletter with rfl | rfl | rfl | rfl | rfl | rfl | rfl | rfl <;> decide
  | control lt =>
    have hall : ∀ n < 32, Visible (controlEscape n) := by decide
    exact hall _ lt
  | plain quote backslash le => exact visible_cons.mpr ⟨Nat.le_of_not_lt le, nofun⟩

theorem visible_literal (s : String) : Visible (Literal.text s).print := by
  have hescape : Visible (escape s.toList) := by
    intro c hm
    obtain ⟨d, -, hd⟩ := List.mem_flatMap.mp hm
    exact visible_escaped (escaped_escapeChar d) c hd
  exact visible_cons.mpr ⟨by decide, visible_append.mpr ⟨hescape, by decide⟩⟩

theorem visible_printElements {js : List Json} (h : ∀ j ∈ js, Visible j.print) :
    Visible (printElements js) := by
  induction js with
  | nil => exact nofun
  | cons j js ih =>
    obtain ⟨hfirst, hrest⟩ := List.forall_mem_cons.mp h
    exact visible_cons.mpr ⟨by decide, visible_append.mpr ⟨hfirst, ih hrest⟩⟩

theorem visible_field {key : Literal} {j : Json} (hkey : ∃ s, key = .text s)
    (hj : Visible j.print) {rest : List Char} (hrest : Visible rest) :
    Visible (key.print ++ ':' :: (j.print ++ rest)) := by
  obtain ⟨s, rfl⟩ := hkey
  exact visible_append.mpr
    ⟨visible_literal s, visible_cons.mpr ⟨by decide, visible_append.mpr ⟨hj, hrest⟩⟩⟩

theorem visible_printFields {fields : List (Literal × Json)}
    (hkeys : ∀ f ∈ fields, ∃ s, f.1 = .text s) (h : ∀ f ∈ fields, Visible f.2.print) :
    Visible (printFields fields) := by
  induction fields with
  | nil => exact nofun
  | cons f fields ih =>
    obtain ⟨hkey, hkeys⟩ := List.forall_mem_cons.mp hkeys
    obtain ⟨hfirst, hrest⟩ := List.forall_mem_cons.mp h
    exact visible_cons.mpr ⟨by decide, visible_field hkey hfirst (ih hkeys hrest)⟩

/-- Plain values are printed without control characters. -/
theorem Plain.visible {j : Json} (h : j.Plain) : Visible j.print := by
  induction h with
  | null => decide
  | bool b => cases b <;> decide
  | natural n => exact visible_toDigits n
  | string s => exact visible_literal s
  | @array elements plain ih =>
    cases elements with
    | nil => decide
    | cons j js =>
      obtain ⟨hfirst, hrest⟩ := List.forall_mem_cons.mp ih
      have hclosing : Visible [']'] := by decide
      have helements := visible_append.mpr ⟨visible_printElements hrest, hclosing⟩
      exact visible_cons.mpr ⟨by decide, visible_append.mpr ⟨hfirst, helements⟩⟩
  | @object fields keys plain ih =>
    cases fields with
    | nil => decide
    | cons f fields =>
      obtain ⟨hkey, hkeys⟩ := List.forall_mem_cons.mp keys
      obtain ⟨hfirst, hrest⟩ := List.forall_mem_cons.mp ih
      have hclosing : Visible ['\x7d'] := by decide
      have hfields := visible_append.mpr ⟨visible_printFields hkeys hrest, hclosing⟩
      exact visible_cons.mpr ⟨by decide, visible_field hkey hfirst hfields⟩

theorem Lossless.visible_encode {α : Type} [JsonCodec α] {Fits : α → Prop}
    (h : Lossless α Fits) (a : α) : Visible (encode a).toList := by
  rw [encode, render, String.toList_ofList]
  exact (h.plain a).visible

end Json

/-! ## One event to a line -/

namespace Event

/-- The texts between the line breaks of a text. What follows the last one is no line. -/
def lines (text : String) : List String :=
  (text.toList.splitOn '\n').dropLast.map String.ofList

/-- The events that the lines of a text stand for. -/
def readLines? (text : String) : Option (List Event) :=
  (lines text).mapM Json.decode?

theorem visible_encode (e : Event) : Json.Visible (Json.encode e).toList :=
  lossless_event.visible_encode e

theorem newline_not_mem_encode (e : Event) : '\n' ∉ (Json.encode e).toList :=
  e.visible_encode.not_mem (by decide)

theorem renderLines_append (a b : List Event) :
    renderLines (a ++ b) = renderLines a ++ renderLines b := by
  rw [renderLines, List.map_append, String.join_append]
  rfl

theorem toList_renderLines_cons (e : Event) (events : List Event) :
    (renderLines (e :: events)).toList =
      (Json.encode e).toList ++ '\n' :: (renderLines events).toList := by
  simp [renderLines, String.toList_join]

/-- There is a line break for each event. -/
theorem count_newline_renderLines (events : List Event) :
    (renderLines events).toList.count '\n' = events.length := by
  induction events with
  | nil => rfl
  | cons e events ih =>
    rw [toList_renderLines_cons, List.count_append, List.count_cons_self, ih,
      List.count_eq_zero_of_not_mem e.newline_not_mem_encode, Nat.zero_add, List.length_cons]

theorem splitOn_renderLines (events : List Event) :
    (renderLines events).toList.splitOn '\n' =
      events.map (fun e => (Json.encode e).toList) ++ [[]] := by
  induction events with
  | nil => rfl
  | cons e events ih =>
    have hline : ∀ c ∈ (Json.encode e).toList, (c == '\n') = false := by
      intro c hm
      exact beq_eq_false_iff_ne.mpr fun he => e.newline_not_mem_encode (he ▸ hm)
    rw [toList_renderLines_cons, List.splitOn,
      List.splitOnP_append_cons_of_forall_mem hline '\n' rfl, ← List.splitOn, ih]
    rfl

/-- The lines of a log are its events. -/
theorem lines_renderLines (events : List Event) :
    lines (renderLines events) = events.map Json.encode := by
  rw [lines, splitOn_renderLines, List.dropLast_concat, List.map_map]
  simp only [Function.comp_def, String.ofList_toList]

theorem readLines?_renderLines {events : List Event} (h : ∀ e ∈ events, e.Fits) :
    readLines? (renderLines events) = some events := by
  rw [readLines?, lines_renderLines]
  exact (Json.mapM_map fun e hm => lossless_event.decode_encode (h e hm)).trans
    (congrArg some (List.map_id events))

theorem renderLines_inj {a b : List Event} (ha : ∀ e ∈ a, e.Fits) (hb : ∀ e ∈ b, e.Fits)
    (h : renderLines a = renderLines b) : a = b := by
  have hread := readLines?_renderLines ha
  rw [h, readLines?_renderLines hb] at hread
  exact (Option.some.inj hread).symm

end Event

end LoopScope
