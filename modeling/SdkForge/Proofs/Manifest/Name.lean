import Mathlib.Data.List.Chain
import SdkForge.Manifest.Reader
import SdkForge.Proofs.Identifier
import SdkForge.Proofs.Outcome

/-!
# Names for crates

A crate's name is read from left to right, with a flag for a dash just passed. Code spells the name
with underscores for dashes.

* `IsName` says what a name is, without the flag, and `restFault?_eq_none_iff` carries the flag
  through the characters.
* `nameFault?_eq_none_iff` says that the names are what the check lets pass.
* `isPlainName_identOf_iff` says that code can use every name but the underscore alone.
* `isName_of_parse` says that the manifests that are read have such names, and
  `usable_unless_underscore` puts this together.
-/

namespace SdkForge.Manifest

open Naming (IsPlainName usedWords keptWords notNames)
open Outcome

/-! ## Names -/

/-- The characters of a name. -/
def IsNameChar (c : Char) : Prop := c.isAlphanum = true ∨ c = '_' ∨ c = '-'

/-- A name for a crate. -/
structure IsName (name : String) : Prop where
  /-- It begins with a letter or an underscore. -/
  head : ∃ c, name.toList.head? = some c ∧ (c.isAlpha = true ∨ c = '_')
  chars : ∀ c ∈ name.toList, IsNameChar c
  /-- No two dashes are next to each other. -/
  apart : name.toList.IsChain fun a b => ¬(a = '-' ∧ b = '-')
  last : name.toList.getLast? ≠ some '-'
  notKeyword : name ∉ keywords
  notKeywordInCode : identOf name ∉ keywords

variable {name : String} {prev : Char} {rest : List Char}

/-! ## Reading a name -/

/-- The flag says whether the character before is a dash. -/
lemma restFault?_eq_none_iff : restFault? (prev == '-') rest = none ↔
    (∀ c ∈ rest, IsNameChar c) ∧ (prev :: rest).IsChain (fun a b => ¬(a = '-' ∧ b = '-')) ∧
      (prev :: rest).getLast? ≠ some '-' := by
  induction rest generalizing prev with
  | nil =>
    rw [restFault?]
    by_cases hprev : prev = '-' <;> simp [hprev]
  | cons c rest ih =>
    rw [restFault?, List.isChain_cons_cons, List.getLast?_cons_cons, List.forall_mem_cons]
    by_cases hdash : c = '-'
    · subst hdash
      have hrest := @ih '-'
      rw [beq_self_eq_true] at hrest
      by_cases hprev : prev = '-' <;> simp [hprev, hrest, IsNameChar]
    · have hrest := @ih c
      rw [beq_eq_false_iff_ne.2 hdash] at hrest
      rw [if_neg hdash]
      by_cases hchar : (c.isAlphanum || c == '_') = true
      · have hname : IsNameChar c := by simpa [IsNameChar, hdash] using hchar
        rw [if_pos hchar, hrest]
        simp [hname, hdash]
      · have hname : ¬IsNameChar c := by simpa [IsNameChar, hdash] using hchar
        rw [if_neg hchar]
        simp [hname]

lemma isKeyword_iff : isKeyword name = true ↔ name ∈ keywords := List.contains_iff_mem

/-- The names are what nothing is wrong with. -/
theorem nameFault?_eq_none_iff : nameFault? name = none ↔ IsName name := by
  unfold nameFault?
  by_cases hkeyword : isKeyword name = true
  · rw [if_pos hkeyword]
    exact iff_of_false (by simp) fun h => h.notKeyword (isKeyword_iff.1 hkeyword)
  · rw [if_neg hkeyword]
    cases hlist : name.toList with
    | nil =>
      refine iff_of_false (by simp) fun h => ?_
      obtain ⟨c, hc, _⟩ := h.head
      simp [hlist] at hc
    | cons c rest =>
      dsimp only
      by_cases hcode : isKeyword (identOf name) = true
      · rw [if_pos hcode]
        exact iff_of_false (by simp) fun h => h.notKeywordInCode (isKeyword_iff.1 hcode)
      · rw [if_neg hcode]
        by_cases hstart : (c.isAlpha || c == '_') = true
        · have hhead : c.isAlpha = true ∨ c = '_' := by simpa using hstart
          have hflag : (c == '-') = false := by
            rw [beq_eq_false_iff_ne]
            rintro rfl
            exact absurd hhead (by decide)
          have hchar : IsNameChar c := hhead.imp (fun h => by rw [Char.isAlphanum, h]; rfl) .inl
          rw [if_pos hstart, ← hflag, restFault?_eq_none_iff, ← hlist]
          constructor
          · rintro ⟨hchars, hapart, hlast⟩
            have hall : ∀ d ∈ name.toList, IsNameChar d := by
              rw [hlist]
              exact List.forall_mem_cons.2 ⟨hchar, hchars⟩
            exact ⟨⟨c, by rw [hlist]; rfl, hhead⟩, hall, hapart, hlast,
              fun hmem => hkeyword (isKeyword_iff.2 hmem),
              fun hmem => hcode (isKeyword_iff.2 hmem)⟩
          · intro h
            have hchars := h.chars
            rw [hlist] at hchars
            exact ⟨(List.forall_mem_cons.1 hchars).2, h.apart, h.last⟩
        · rw [if_neg hstart]
          refine iff_of_false (by simp) fun h => ?_
          obtain ⟨d, hd, hhead⟩ := h.head
          rw [hlist, List.head?_cons, Option.some_inj] at hd
          subst hd
          exact hstart (by simpa using hhead)

/-- A check lets names pass, whatever they are for. -/
theorem Place.checkName_eq_ok_iff (p : Place) (name kind : String) :
    p.checkName name kind = .ok () ↔ IsName name := by
  rw [← nameFault?_eq_none_iff, checkName]
  split <;> simp_all

/-! ## Names in code -/

lemma toList_identOf (name : String) :
    (identOf name).toList = name.toList.map fun c => if c = '-' then '_' else c :=
  String.toList_ofList

/-- Code spells a name as an identifier. -/
lemma isIdentifier_identOf (h : IsName name) :
    ShapeId.isIdentifier (identOf name).toList = true := by
  have hchar : ∀ c, IsNameChar c → ShapeId.inIdentifier (if c = '-' then '_' else c) = true := by
    rintro c (hc | rfl | rfl)
    · have hne : c ≠ '-' := by
        rintro rfl
        contradiction
      rw [if_neg hne, ShapeId.inIdentifier, hc, Bool.true_or]
    · decide
    · decide
  obtain ⟨c, hhead, hc⟩ := h.head
  obtain ⟨rest, hlist⟩ := List.head?_eq_some_iff.1 hhead
  have hchars := h.chars
  rw [hlist] at hchars
  have hne : c ≠ '-' := by
    rintro rfl
    exact absurd hc (by decide)
  have hstart : ShapeId.startsIdentifier c = true := by simpa [ShapeId.startsIdentifier] using hc
  rw [toList_identOf, hlist, List.map_cons, if_neg hne, ShapeId.isIdentifier, hstart, Bool.true_and,
    List.all_map]
  exact List.all_eq_true.2 fun d hd => hchar d ((List.forall_mem_cons.1 hchars).2 d hd)

/-- Only the underscore is spelled as the underscore. -/
lemma identOf_eq_underscore_iff (h : IsName name) : identOf name = "_" ↔ name = "_" := by
  constructor
  · intro heq
    obtain ⟨c, hhead, hc⟩ := h.head
    obtain ⟨rest, hlist⟩ := List.head?_eq_some_iff.1 hhead
    have hcode := congrArg String.toList heq
    have hne : c ≠ '-' := by
      rintro rfl
      exact absurd hc (by decide)
    rw [toList_identOf, hlist, List.map_cons, if_neg hne] at hcode
    obtain ⟨rfl, hrest⟩ := List.cons.inj hcode
    rw [List.map_eq_nil_iff.1 hrest] at hlist
    exact String.toList_inj.1 hlist
  · rintro rfl
    rfl

/-- Code can use every name but the underscore alone, which is a pattern. -/
theorem isPlainName_identOf_iff (h : IsName name) : IsPlainName (identOf name) ↔ name ≠ "_" := by
  have hwords : ∀ word ∈ usedWords ++ keptWords, word ∈ keywords := by decide
  have hnames : identOf name ∈ notNames ↔ name = "_" := by
    rw [notNames, List.cons_append, List.mem_cons, identOf_eq_underscore_iff h]
    exact or_iff_left fun hmem => h.notKeywordInCode (hwords _ hmem)
  rw [IsPlainName, hnames]
  exact and_iff_right (isIdentifier_identOf h)

/-! ## Names that are read -/

/-- The names of a manifest that nothing is wrong with. -/
lemma isName_of_check {m : Manifest} {source : String} (h : m.check source = .ok ()) :
    IsName m.codegen.moduleName ∧ IsName m.runtime.cratePrefix := by
  obtain ⟨_, hmodule, h⟩ := bind_eq_ok.1 h
  dsimp only at h
  split at h
  · contradiction
  · split at h
    · contradiction
    · obtain ⟨_, hprefix, _⟩ := bind_eq_ok.1 h
      exact ⟨(Place.checkName_eq_ok_iff _ _ _).1 hmodule,
        (Place.checkName_eq_ok_iff _ _ _).1 hprefix⟩

/-- The names of a manifest that is read. -/
theorem isName_of_parse {text file : String} {m : Manifest} (h : parse text file = .ok m) :
    IsName m.codegen.moduleName ∧ IsName m.runtime.cratePrefix := by
  simp only [parse, bind_eq_ok, pure_eq_ok] at h
  obtain ⟨_, _, _, _, _, hcheck, rfl⟩ := h
  exact isName_of_check hcheck

/-- The check lets pass what is a name, and code can use every name that it lets pass but the
underscore alone. The manifests that are read have names for the crate and for those that it is
built on. -/
theorem usable_unless_underscore (p : Place) (name kind : String) :
    (p.checkName name kind = .ok () ↔ IsName name) ∧
      (p.checkName name kind = .ok () → (IsPlainName (identOf name) ↔ name ≠ "_")) ∧
      ∀ text file m, parse text file = .ok m → name = m.codegen.moduleName ∨
        name = m.runtime.cratePrefix → IsName name := by
  have hcheck := p.checkName_eq_ok_iff name kind
  refine ⟨hcheck, fun hok => isPlainName_identOf_iff (hcheck.1 hok),
    fun text file m hparse hname => ?_⟩
  have hnames := isName_of_parse hparse
  rcases hname with rfl | rfl
  · exact hnames.1
  · exact hnames.2

/-- A manifest of the crate `weather-sdk`. -/
def weatherText : String :=
  "[codegen]\nservice = \"ex#Weather\"\nmodel = \"model.json\"\nmodule-name = \"weather-sdk\"\n"

theorem usable_of_weatherText :
    ∃ m, parse weatherText = .ok m ∧ m.codegen.moduleName = "weather-sdk" ∧ IsName "weather-sdk" ∧
    Place.checkName ⟨weatherText, ["codegen"]⟩ "weather-sdk" "module name" = .ok () ∧
    IsPlainName (identOf "weather-sdk") := by
  have hread : ((parse weatherText).toOption.any (·.codegen.moduleName == "weather-sdk")) =
      true := by decide +kernel
  obtain ⟨m, hm, hname⟩ := (Option.any_eq_true ..).1 hread
  have hparse := toOption_eq_some.1 hm
  have hcheck : Place.checkName ⟨weatherText, ["codegen"]⟩ "weather-sdk" "module name" =
      .ok () := by decide
  have hmodule := beq_iff_eq.1 hname
  obtain ⟨_, hplain, hread⟩ :=
    usable_unless_underscore ⟨weatherText, ["codegen"]⟩ "weather-sdk" "module name"
  exact ⟨m, hparse, hmodule, hread _ _ _ hparse (.inl hmodule.symm), hcheck,
    (hplain hcheck).2 (by decide)⟩

/-- The underscore alone is let pass, and code cannot use it. -/
theorem not_usable_of_underscore :
    Place.checkName ⟨"", []⟩ "_" "name" = .ok () ∧ identOf "_" = "_" ∧
    ¬IsPlainName (identOf "_") := by
  decide

end SdkForge.Manifest
