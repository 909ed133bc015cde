import Mathlib.Data.List.Perm.Subperm
import SdkForge.Proofs.Symbol.Metadata

/-!
# Turning the server's types on

The stage for the server's types follows what a shape holds by itself, apart from the stage that
built the type. Both end at one shape, so that turning the server's types on changes a type in one
place only.

* `Model.EndsIn` follows members, lists and maps to the last shape, and `Model.TypedBy.endsIn` says
  that the type was built that way.
* `Model.EndsAfter.le_size` says that the way is no longer than the model, and
  `SymbolStage.wrapper?_of_endsIn` that the stage gets to its end.
* `Project.server_types_replace_cores` compares the types with and without the server's.
-/

namespace SdkForge

open Outcome

/-! ## What a shape holds in the end -/

/-- The id of what a member, a list or the values of a map hold. -/
def Shape.holds? (shape : Shape) : Option ShapeId :=
  match shape.body with
  | .member _ next | .list next | .map _ next => some next
  | _ => none

lemma Shape.holds?_eq_none_iff {shape : Shape} : shape.holds? = none ↔ shape.isHolder = false := by
  obtain ⟨id, traits, body⟩ := shape
  cases body <;> simp [holds?, isHolder, isMember, isCollection, kind]

namespace Model

/-- What members, lists and maps hold is followed `n` times from a shape to one that holds
nothing. -/
inductive EndsAfter (model : Model) : Nat → Shape → Shape → Prop where
  | here {shape} (hself : shape.isHolder = false) : EndsAfter model 0 shape shape
  | next {n shape id next last} (hholds : shape.holds? = some id) (hget : model.get? id = some next)
      (hrest : EndsAfter model n next last) : EndsAfter model (n + 1) shape last

/-- What members, lists and maps hold is followed from a shape to one that holds nothing. -/
def EndsIn (model : Model) (shape last : Shape) : Prop := ∃ n, model.EndsAfter n shape last

variable {model : Model} {shape last : Shape}

/-- There is one way to follow. -/
lemma EndsAfter.unique {n m : Nat} {other : Shape} (h : model.EndsAfter n shape last)
    (hother : model.EndsAfter m shape other) : n = m ∧ last = other := by
  induction h generalizing m with
  | here hself =>
    cases hother with
    | here => exact ⟨rfl, rfl⟩
    | next hholds =>
      rw [Shape.holds?_eq_none_iff.2 hself] at hholds
      contradiction
  | next hholds hget _ ih =>
    cases hother with
    | here hself =>
      rw [Shape.holds?_eq_none_iff.2 hself] at hholds
      contradiction
    | next hholds' hget' hrest =>
      obtain rfl := Option.some.inj (hholds.symm.trans hholds')
      obtain rfl := Option.some.inj (hget.symm.trans hget')
      obtain ⟨rfl, rfl⟩ := ih hrest
      exact ⟨rfl, rfl⟩

/-- The shapes on the way have ids of their own, each with less of the way before it. -/
lemma EndsAfter.exists_ids {n : Nat} (h : model.EndsAfter n shape last) :
    ∃ ids : List ShapeId, ids.length = n ∧ ids.Nodup ∧
      ∀ id ∈ ids, ∃ found m, model.get? id = some found ∧ m < n ∧ model.EndsAfter m found last := by
  induction h with
  | here => exact ⟨[], rfl, .nil, nofun⟩
  | @next n shape id next last _ hget hrest ih =>
    obtain ⟨ids, hlength, hnodup, hids⟩ := ih
    have hfresh : id ∉ ids := by
      intro hmem
      obtain ⟨found, m, hfound, hlt, hends⟩ := hids id hmem
      obtain rfl := Option.some.inj (hget.symm.trans hfound)
      -- the rest of the way would be shorter than itself
      have hsame := (hrest.unique hends).1
      omega
    refine ⟨id :: ids, congrArg (· + 1) hlength, List.nodup_cons.2 ⟨hfresh, hnodup⟩, ?_⟩
    intro other hmem
    rcases List.mem_cons.1 hmem with rfl | hmem
    · exact ⟨next, n, hget, Nat.lt_succ_self n, hrest⟩
    · obtain ⟨found, m, hfound, hlt, hends⟩ := hids other hmem
      exact ⟨found, m, hfound, Nat.lt_succ_of_lt hlt, hends⟩

/-- A way that ends is no longer than the model. -/
lemma EndsAfter.le_size {n : Nat} (h : model.EndsAfter n shape last) : n ≤ model.size := by
  obtain ⟨ids, hlength, hnodup, hids⟩ := h.exists_ids
  have hsubset : ids ⊆ model.shapes.keys := by
    intro id hmem
    obtain ⟨found, _, hfound, _⟩ := hids id hmem
    exact OrderedMap.mem_keys.2 ⟨found, hfound⟩
  have hle : ids.length ≤ model.shapes.keys.length := (hnodup.subperm hsubset).length_le
  rw [hlength, OrderedMap.keys, List.length_map] at hle
  exact hle

/-- The type is built on the way. From a collection to what it holds, the way goes through the
collection's member. -/
lemma TypedBy.endsIn {origin : Shape} (h : model.TypedBy shape origin) :
    model.EndsIn shape origin := by
  induction h with
  | self hself => exact ⟨0, .here hself⟩
  | @held shape next origin hheld _ ih =>
    obtain ⟨n, hends⟩ := ih
    obtain ⟨id, traits, body⟩ := shape
    cases body with
    | member container target => exact ⟨n + 1, .next rfl hheld hends⟩
    | list member | map _ member =>
      obtain ⟨found, hfound, htarget⟩ := Option.bind_eq_some_iff.1 hheld
      obtain ⟨target, htarget, hnext⟩ := Option.bind_eq_some_iff.1 htarget
      obtain ⟨container, hbody⟩ := body_eq_of_target? htarget
      have hholds : found.holds? = some target := by rw [Shape.holds?, hbody]
      exact ⟨n + 2, .next rfl hfound (.next hholds hnext hends)⟩
    | _ => simp [held?] at hheld

end Model

/-! ## The server's types -/

/-- The type of the server's crate that stands for a shape that holds nothing. -/
def Shape.serverType? (shape : Shape) : Option String :=
  match shape.body with
  | .blob => if shape.traits.streaming then none else some "Blob"
  | .timestamp => some "DateTime"
  | _ => none

namespace SymbolStage

variable {model : Model} {shape last : Shape}

/-- The stage follows what is held, and else has a type for the shape or none. -/
lemma wrapperWithin_succ (model : Model) (fuel : Nat) (shape : Shape) :
    wrapperWithin model (fuel + 1) shape =
    match shape.holds? with
    | some id => (model.get? id).bind (wrapperWithin model fuel)
    | none => shape.serverType? := by
  obtain ⟨id, traits, body⟩ := shape
  cases body <;> rfl

/-- The stage comes to the end of the way, if the fuel is enough. -/
lemma wrapperWithin_of_endsAfter {n fuel : Nat} (h : model.EndsAfter n shape last)
    (hfuel : n < fuel) :
    wrapperWithin model fuel shape = last.serverType? := by
  induction h generalizing fuel with
  | here hself =>
    obtain ⟨fuel, rfl⟩ := Nat.exists_eq_add_of_lt hfuel
    rw [Nat.zero_add, wrapperWithin_succ, Shape.holds?_eq_none_iff.2 hself]
  | next hholds hget _ ih =>
    obtain ⟨rest, rfl⟩ : ∃ rest, fuel = rest + 1 := ⟨fuel - 1, by omega⟩
    rw [wrapperWithin_succ, hholds]
    dsimp only
    rw [hget, Option.bind_some]
    exact ih (by omega)

lemma wrapper?_of_endsIn (h : model.EndsIn shape last) :
    wrapper? model shape = last.serverType? := by
  obtain ⟨n, hends⟩ := h
  exact wrapperWithin_of_endsAfter hends (Nat.lt_succ_of_le hends.le_size)

lemma wrap_of_wrapper? (crate : String) {name : String} {symbol : Symbol}
    (hopen : symbol.wrapped = false) (hname : wrapper? model shape = some name) :
    wrap model crate shape symbol =
      { symbol with type := replaceCore (.named name (some (serverTypes crate))) symbol.type,
                    wrapped := true } := by
  simp [wrap, hopen, hname]

end SymbolStage

/-- The server's type `name` stands for what a shape holds: the shape is not a stream of an
envelope, and ends in a blob that is not a stream, or in a point in time. -/
inductive Model.HasServerType (model : Model) (shape : Shape) : String → Prop where
  | blob (last : Shape) (hends : model.EndsIn shape last) (hkind : last.kind = .blob)
      (hbytes : last.traits.streaming = false) (hplain : ¬model.StreamsInEnvelope shape) :
      HasServerType model shape "Blob"
  | timestamp (last : Shape) (hends : model.EndsIn shape last) (hkind : last.kind = .timestamp)
      (hplain : ¬model.StreamsInEnvelope shape) : HasServerType model shape "DateTime"

namespace Model

variable {model : Model} {shape last : Shape} {name : String}

lemma HasServerType.not_streams (h : model.HasServerType shape name) :
    ¬model.StreamsInEnvelope shape := by
  cases h with
  | blob _ _ _ _ hplain => exact hplain
  | timestamp _ _ _ hplain => exact hplain

lemma EndsIn.unique {other : Shape} (h : model.EndsIn shape last)
    (hother : model.EndsIn shape other) : last = other := by
  obtain ⟨n, hends⟩ := h
  obtain ⟨m, hends'⟩ := hother
  exact (hends.unique hends').2

lemma EndsIn.hasServerType_iff (hends : model.EndsIn shape last)
    (hplain : ¬model.StreamsInEnvelope shape) :
    model.HasServerType shape name ↔ last.serverType? = some name := by
  constructor
  · intro h
    cases h with
    | blob last' hends' hkind hbytes =>
      obtain rfl := hends.unique hends'
      obtain ⟨id, traits, body⟩ := last
      cases body <;> simp_all [Shape.kind, Shape.serverType?]
    | timestamp last' hends' hkind =>
      obtain rfl := hends.unique hends'
      obtain ⟨id, traits, body⟩ := last
      cases body <;> simp_all [Shape.kind, Shape.serverType?]
  · intro h
    obtain ⟨id, traits, body⟩ := last
    cases body with
    | blob =>
      simp only [Shape.serverType?, Option.ite_none_left_eq_some, Option.some.injEq] at h
      obtain ⟨hbytes, rfl⟩ := h
      exact .blob _ hends rfl (by simpa using hbytes) hplain
    | timestamp =>
      obtain rfl := Option.some.inj h
      exact .timestamp _ hends rfl hplain
    | _ => simp [Shape.serverType?] at h

end Model

/-! ## Types that differ in their core -/

namespace TypeExpr

/-- Types that are alike but for the name at their core: what is around it is the same, keys of maps
included. -/
inductive SameFrame : TypeExpr → TypeExpr → Prop where
  | named {name other : String} {ns ns' : Option String} :
      SameFrame (.named name ns) (.named other ns')
  | option {a b : TypeExpr} (h : SameFrame a b) : SameFrame (.option a) (.option b)
  | list {a b : TypeExpr} (h : SameFrame a b) : SameFrame (.list a) (.list b)
  | map {key a b : TypeExpr} (h : SameFrame a b) : SameFrame (.map key a) (.map key b)
  | box {a b : TypeExpr} (h : SameFrame a b) : SameFrame (.box a) (.box b)
  | reference {a b : TypeExpr} (h : SameFrame a b) : SameFrame (.reference a) (.reference b)

lemma sameFrame_replaceCore (name : String) (ns : Option String) (type : TypeExpr) :
    (SymbolStage.replaceCore (.named name ns) type).SameFrame type := by
  induction type with
  | named => exact .named
  | option _ ih => exact .option ih
  | list _ ih => exact .list ih
  | map _ _ _ ih => exact .map ih
  | box _ ih => exact .box ih
  | reference _ ih => exact .reference ih

lemma SameFrame.refl (type : TypeExpr) : type.SameFrame type := by
  induction type with
  | named => exact .named
  | option _ ih => exact .option ih
  | list _ ih => exact .list ih
  | map _ _ _ ih => exact .map ih
  | box _ ih => exact .box ih
  | reference _ ih => exact .reference ih

lemma SameFrame.boxed {a b : TypeExpr} (h : a.SameFrame b) : a.boxed.SameFrame b.boxed := by
  cases h with
  | option h => exact .option (.box h)
  | named => exact .box .named
  | list h => exact .box (.list h)
  | map h => exact .box (.map h)
  | box h => exact .box (.box h)
  | reference h => exact .box (.reference h)

end TypeExpr

lemma SymbolStage.sameFrame_boxRecursive {model : Model} {shape : Shape} {a b : Symbol}
    (hboxed : a.boxed = b.boxed) (h : a.type.SameFrame b.type) :
    (boxRecursive model shape a).type.SameFrame (boxRecursive model shape b).type := by
  unfold boxRecursive Symbol.box
  rw [hboxed]
  split_ifs
  · exact h
  · exact h.boxed
  · exact h

/-! ## The chain with and without the server's types -/

namespace Project

variable {p : Project} {shape : Shape} {symbol : Symbol}

/-- The type of a plain symbol with the server's types turned on or off. -/
lemma type_finish_of_made {origin : Shape} {plain first : Symbol}
    (howned : PlainSymbols.Owned (.ofProject p) origin plain)
    (hmade : PlainSymbols.MadeOf plain first) (on : Bool) :
    ((p.withWrapperTypes on).finish shape first).type =
      (SymbolStage.boxRecursive p.model shape
        (if on then SymbolStage.wrap p.model p.serverCrate shape first else first)).type := by
  rw [finish_eq_of_made (p := p.withWrapperTypes on) howned hmade, SymbolStage.type_dropEquality]
  rfl

/-- Turning the server's types on replaces the name at the core of a type by the server's, exactly
if the server has a type for what the shape holds in the end. Everything around the core stays. -/
theorem server_types_replace_cores (h : p.symbolOf shape = .ok symbol) : ∃ on off,
    (p.withWrapperTypes true).symbolOf shape = .ok on ∧
    (p.withWrapperTypes false).symbolOf shape = .ok off ∧
    on.type.SameFrame off.type ∧
    (∀ name, p.model.HasServerType shape name →
      on.type.core = (name, some (SymbolStage.serverTypes p.serverCrate))) ∧
    (on.type ≠ off.type ↔ ∃ name, p.model.HasServerType shape name) := by
  obtain ⟨first, hfirst, -⟩ := symbolOf_eq_ok.1 h
  refine ⟨_, _, symbolOf_eq_ok.2 ⟨first, hfirst, rfl⟩, symbolOf_eq_ok.2 ⟨first, hfirst, rfl⟩, ?_⟩
  rcases of_begun_eq_ok hfirst with ⟨hstreams, rfl⟩ | ⟨hplain, hsymbol⟩
  · -- the stream is one of the server's types already, which no wrapper changes
    have hnone : ∀ name, ¬p.model.HasServerType shape name :=
      fun name htype => htype.not_streams hstreams
    refine ⟨.refl _, fun name htype => absurd htype (hnone name), ?_⟩
    exact iff_of_false (fun hne => hne rfl) fun ⟨name, htype⟩ => hnone name htype
  · obtain ⟨origin, plain, htyped, hown, hmade⟩ := PlainSymbols.exists_origin hsymbol
    have howned := PlainSymbols.owned_of_own htyped.isHolder_origin hown
    have hends : p.model.EndsIn shape origin := htyped.endsIn
    have hwrapper := SymbolStage.wrapper?_of_endsIn hends
    have hiff : ∀ name, p.model.HasServerType shape name ↔ origin.serverType? = some name :=
      fun name => hends.hasServerType_iff hplain
    simp only [type_finish_of_made howned hmade, hiff, if_true, Bool.false_eq_true, if_false]
    cases htype : origin.serverType? with
    | none =>
      rw [SymbolStage.wrap_eq_self (hwrapper.trans htype)]
      exact ⟨.refl _, nofun, iff_of_false (fun hne => hne rfl) nofun⟩
    | some name =>
      have hopen := (PlainSymbols.isPlain_of_symbolWithin hsymbol).wrapped
      have hwrap := SymbolStage.wrap_of_wrapper? p.serverCrate hopen (hwrapper.trans htype)
      have hcore :
          (SymbolStage.boxRecursive p.model shape
            (SymbolStage.wrap p.model p.serverCrate shape first)).type.core =
              (name, some (SymbolStage.serverTypes p.serverCrate)) := by
        rw [SymbolStage.core_boxRecursive, hwrap, SymbolStage.core_replaceCore]
        rfl
      refine ⟨?_, ?_, iff_of_true ?_ ⟨name, rfl⟩⟩
      · apply SymbolStage.sameFrame_boxRecursive SymbolStage.boxed_wrap
        rw [hwrap]
        exact TypeExpr.sameFrame_replaceCore ..
      · intro other hother
        rw [hcore, Option.some.inj hother]
      · -- the plain type is none of the server's
        intro hsame
        rw [hsame, SymbolStage.core_boxRecursive, hmade.core] at hcore
        exact core_ne_serverTypes howned (congrArg Prod.snd hcore)

/-- The blobs of a node are optional, and the server has a type for them. -/
theorem server_types_replace_cores_of_photoTree : ∃ on off,
    (photoTree.withWrapperTypes true).symbolOf nodePhotos = .ok on ∧
    (photoTree.withWrapperTypes false).symbolOf nodePhotos = .ok off ∧
    off.type = .option (.list (.named "Blob" (some "kiln_types"))) ∧
    on.type = .option (.list (.named "Blob" (some "kiln_server::types"))) := by
  have hfacts : (photoTree.symbolOf nodePhotos).toOption.isSome = true ∧
      ((photoTree.withWrapperTypes false).symbolOf nodePhotos).toOption.map (·.type) =
        some (.option (.list (.named "Blob" (some "kiln_types")))) ∧
      photoTree.model.isStreaming nodePhotos = false ∧
      photoTree.model.get? ⟨"ex", "Photos", none⟩ =
        some { id := ⟨"ex", "Photos", none⟩, body := .list ⟨"ex", "Photos", some "member"⟩ } ∧
      photoTree.model.get? ⟨"ex", "Photos", some "member"⟩ =
        some (.ofMember ⟨"ex", "Photos", some "member"⟩ ⟨"ex", "Photo", none⟩) ∧
      photoTree.model.get? ⟨"ex", "Photo", none⟩ =
        some { id := ⟨"ex", "Photo", none⟩, body := .blob } := by
    decide +kernel
  obtain ⟨hphotos, hoffType, hstreaming, hlist, hmember, hblob⟩ := hfacts
  have hplain : ¬photoTree.model.StreamsInEnvelope nodePhotos :=
    fun hstreams => by simp [hstreams.isStreaming] at hstreaming
  have htype : photoTree.model.HasServerType nodePhotos "Blob" :=
    .blob _ ⟨3, .next rfl hlist (.next rfl hmember (.next rfl hblob (.here rfl)))⟩ rfl rfl hplain
  obtain ⟨symbol, hsymbol⟩ := exists_eq_ok_of_isSome hphotos
  obtain ⟨on, off, hon, hoff, hframe, hcore, _⟩ := server_types_replace_cores hsymbol
  rw [hoff] at hoffType
  have hoffType : off.type = .option (.list (.named "Blob" (some "kiln_types"))) :=
    Option.some.inj hoffType
  refine ⟨on, off, hon, hoff, hoffType, ?_⟩
  have hcrate : photoTree.serverCrate = "kiln_server" := by decide +kernel
  have hcore := hcore _ htype
  rw [hcrate] at hcore
  -- the frame is that of the plain type
  rw [hoffType] at hframe
  generalize on.type = type at hframe hcore
  cases hframe with
  | option hframe =>
    cases hframe with
    | list hframe =>
      cases hframe
      obtain ⟨rfl, rfl⟩ := Prod.mk.inj hcore
      rfl

end Project

end SdkForge
