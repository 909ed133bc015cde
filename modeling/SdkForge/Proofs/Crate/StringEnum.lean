import Mathlib.Data.List.Nodup
import SdkForge.Crate.StringEnum
import SdkForge.Proofs.Text.Word

/-!
# What a string enum reads and writes

The two functions of a string enum take the first arm that matches. `read` and `write` are what they
give.

* `read_eq` and `write_unit` say which variant of the enum answers.
* `keepsStrings_of_nodup` says that strings come back where no two variants have one name.
* `values_kept_iff` says for which values the enum has a variant of its own for each and keeps all
  strings.
-/

namespace SdkForge.Crate.StringEnum

/-! ## The two functions -/

/-- A value of the enum: a variant that holds nothing, or the one that keeps a string. -/
inductive Value where
  | unit (variant : String)
  | unknown (text : String)
  deriving DecidableEq, Repr

/-- What an arm gives for a value that it matches. -/
def Arm.write : Arm → Value → Option String
  | .variant v, .unit name => if v.name = name then some v.value else none
  | .fallback, .unknown text => some text
  | _, _ => none

/-- What an arm gives for a string that it matches. -/
def Arm.read : Arm → String → Option Value
  | .variant v, text => if v.value = text then some (.unit v.name) else none
  | .fallback, text => some (.unknown text)

/-- What the first arm gives that matches the value. -/
def write (e : StringEnum) (value : Value) : Option String := e.arms.findSome? (·.write value)

/-- What the first arm gives that matches the string. -/
def read (e : StringEnum) (text : String) : Option Value := e.arms.findSome? (·.read text)

variable {e : StringEnum} {text name : String}

/-- A string is read as the first variant that stands for it, and kept where there is none. -/
theorem read_eq (e : StringEnum) (text : String) :
    e.read text = some ((e.variants.find? (·.value = text)).elim (.unknown text) fun v =>
      .unit v.name) := by
  rw [read, arms, List.findSome?_append]
  induction e.variants with
  | nil => rfl
  | cons v rest ih =>
    rw [List.map_cons, List.findSome?_cons, List.find?_cons]
    by_cases hvalue : v.value = text
    · simp [Arm.read, hvalue]
    · simpa [Arm.read, hvalue] using ih

/-- A variant is written as what the first one with its name stands for. -/
theorem write_unit (e : StringEnum) (name : String) :
    e.write (.unit name) = (e.variants.find? (·.name = name)).map (·.value) := by
  rw [write, arms, List.findSome?_append]
  induction e.variants with
  | nil => rfl
  | cons v rest ih =>
    rw [List.map_cons, List.findSome?_cons, List.find?_cons]
    by_cases hname : v.name = name
    · simp [Arm.write, hname]
    · simpa [Arm.write, hname] using ih

/-- What was kept is written as it is. -/
theorem write_unknown (e : StringEnum) (text : String) : e.write (.unknown text) = some text := by
  rw [write, arms, List.findSome?_append]
  induction e.variants with
  | nil => rfl
  | cons v rest ih => simpa [Arm.write] using ih

/-! ## Strings that come back -/

/-- Every string that is read is written again. -/
def KeepsStrings (e : StringEnum) : Prop := ∀ text, (e.read text).bind e.write = some text

/-- The enum has a variant of its own for each of the values, and one more, and keeps all
strings. -/
structure KeepsValues (e : StringEnum) (values : List EnumValue) : Prop where
  names : (e.decl.variants.map (·.name)).Nodup
  strings : e.KeepsStrings
  own : ∀ v ∈ values, e.read v.value = some (.unit (variantName v))

/-- Where no two entries have one key, each is found by its key. -/
lemma find?_eq_some_of_nodup {α β : Type} [DecidableEq β] {key : α → β} {entries : List α}
    (hkeys : (entries.map key).Nodup) {entry : α} (hmem : entry ∈ entries) :
    entries.find? (key · = key entry) = some entry := by
  induction entries with
  | nil => contradiction
  | cons first rest ih =>
    obtain ⟨hfirst, hrest⟩ := List.nodup_cons.1 hkeys
    rcases List.mem_cons.1 hmem with rfl | hmem
    · simp
    · have hother : key first ≠ key entry := fun heq => hfirst (heq ▸ List.mem_map_of_mem hmem)
      rw [List.find?_cons_of_neg (by simpa using hother)]
      exact ih hrest hmem

/-- Where no two variants have one name, all strings come back. -/
theorem keepsStrings_of_nodup (hnames : (e.variants.map (·.name)).Nodup) : e.KeepsStrings := by
  intro text
  rw [read_eq, Option.bind_some]
  cases hfind : e.variants.find? (·.value = text) with
  | none => exact write_unknown e text
  | some v =>
    have hvalue : v.value = text := by simpa using List.find?_some hfind
    rw [Option.elim_some, write_unit,
      find?_eq_some_of_nodup hnames (List.mem_of_find?_eq_some hfind), ← hvalue]
    rfl

/-- Where no two variants stand for one string, the string of each is read as it. -/
theorem read_value (hvalues : (e.variants.map (·.value)).Nodup) {v : StringVariant}
    (hmem : v ∈ e.variants) :
    e.read v.value = some (.unit v.name) := by
  rw [read_eq, find?_eq_some_of_nodup hvalues hmem, Option.elim_some]

/-! ## Enums of values -/

/-- The text that a variant's name is read from. -/
def spelling (v : EnumValue) : String :=
  let raw := v.name.getD v.value
  if raw.toList.any Text.isLower then raw else String.ofList (Text.lowerText raw.toList)

lemma variantName_eq (v : EnumValue) : variantName v = Text.pascalCase (spelling v) := by
  unfold variantName spelling
  dsimp only
  split <;> rfl

variable (symbol : Symbol) (doc : Option String) (values : List EnumValue)

lemma names_ofValues :
    (ofValues symbol doc values).variants.map (·.name) = values.map variantName := by
  simp [ofValues, Function.comp_def]

lemma values_ofValues :
    (ofValues symbol doc values).variants.map (·.value) = values.map (·.value) := by
  simp [ofValues, Function.comp_def]

lemma names_decl_ofValues :
    (ofValues symbol doc values).decl.variants.map (·.name) = values.map variantName ++
      ["Unknown"] := by
  simp [decl, unknown, ofValues, Function.comp_def]

/-- No two variants have one name exactly if no two values give one name, and none gives that of the
variant that is added. -/
lemma nodup_names_decl_iff : ((ofValues symbol doc values).decl.variants.map (·.name)).Nodup ↔
    (values.map variantName).Nodup ∧ ∀ v ∈ values, ¬Text.IsUnknown (spelling v) := by
  rw [names_decl_ofValues, List.nodup_append]
  refine and_congr_right fun _ => ?_
  simp [variantName_eq, Text.pascalCase_eq_unknown_iff]

/-- What is no value is kept as it is. -/
lemma read_of_notMem {text : String} (htext : text ∉ values.map (·.value)) :
    (ofValues symbol doc values).read text = some (.unknown text) := by
  have hnone : (ofValues symbol doc values).variants.find? (·.value = text) = none := by
    rw [List.find?_eq_none]
    intro v hv hvalue
    refine htext (values_ofValues symbol doc values ▸ ?_)
    exact List.mem_map.2 ⟨v, hv, by simpa using hvalue⟩
  rw [read_eq, hnone]
  rfl

/-- The enum has a variant of its own for each of its values and keeps all strings exactly if no
value is given twice, no two give one name, and none is called like the variant for other strings.
Without names that are given twice all strings come back, and what is no value is always kept as it
is. -/
theorem values_kept_iff :
    ((ofValues symbol doc values).KeepsValues values ↔
      (values.map (·.value)).Nodup ∧ (values.map variantName).Nodup ∧
      ∀ v ∈ values, ¬Text.IsUnknown (spelling v)) ∧
    ((values.map variantName).Nodup → (ofValues symbol doc values).KeepsStrings) ∧
    ∀ text, text ∉ values.map (·.value) →
      (ofValues symbol doc values).read text = some (.unknown text) ∧
      (ofValues symbol doc values).write (.unknown text) = some text := by
  have hback : (values.map variantName).Nodup → (ofValues symbol doc values).KeepsStrings := by
    intro hnames
    exact keepsStrings_of_nodup ((names_ofValues symbol doc values).symm ▸ hnames)
  refine ⟨⟨?_, ?_⟩, hback, fun text htext =>
    ⟨read_of_notMem symbol doc values htext, write_unknown _ text⟩⟩
  · intro h
    obtain ⟨hnames, hunknown⟩ := (nodup_names_decl_iff symbol doc values).1 h.names
    refine ⟨?_, hnames, hunknown⟩
    -- values that are equal are read as one variant
    refine (hnames.of_map _).map_on fun v hv w hw hvalue => ?_
    have hread : Value.unit (variantName v) = .unit (variantName w) :=
      Option.some.inj (by rw [← h.own v hv, ← h.own w hw, hvalue])
    exact List.inj_on_of_nodup_map hnames hv hw (Value.unit.inj hread)
  · intro ⟨hvalues, hnames, hunknown⟩
    refine ⟨(nodup_names_decl_iff symbol doc values).2 ⟨hnames, hunknown⟩, hback hnames,
      fun v hv => ?_⟩
    have hmem : ⟨variantName v, v.value⟩ ∈ (ofValues symbol doc values).variants :=
      List.mem_map_of_mem hv
    exact read_value ((values_ofValues symbol doc values).symm ▸ hvalues) hmem

/-- Minutes and months. -/
def months : List EnumValue := [⟨"m", none⟩, ⟨"M", none⟩]

/-- The enum of minutes and months. -/
def period : StringEnum := ofValues (.generated "Period" "model") none months

/-- The two have one variant, which is written as minutes. -/
theorem not_values_kept_of_months : ¬period.KeepsValues months ∧
    period.decl.variants.map (·.name) = ["M", "M", "Unknown"] ∧
    (period.read "M").bind period.write = some "m" := by
  have hnames : period.decl.variants.map (·.name) = ["M", "M", "Unknown"] := by decide
  refine ⟨fun h => ?_, hnames, by decide⟩
  have hnodup := h.names
  rw [hnames] at hnodup
  exact absurd hnodup (by decide)

end SdkForge.Crate.StringEnum
