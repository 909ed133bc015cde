import SdkForge.Proofs.Crate.Definitions
import SdkForge.Proofs.Lint

/-!
# Streams are confined to envelopes

A streaming member has the runtime's stream as its type only if it belongs to the envelope of an
operation. All other symbols are what they are without the stage for streams.

* `isRecursive_of_blob` says that a member that holds a blob, as streaming members do, needs no box.
* `Project.finish_stream` says that later stages leave the stream as it is, and
  `Project.core_finish_ne_stream` that nothing else gets its type.
* `streams_confined` says both for a finished run.
-/

namespace SdkForge

open Outcome
open Crate (TypeModule)

/-! ## Blobs -/

namespace Shape

variable {shape : Shape}

lemma isAggregate_of_isBlob (h : shape.isBlob = true) : shape.isAggregate = false := by
  have hkind : shape.kind = .blob := by simpa [isBlob] using h
  simp [isAggregate, isRecord, isUnion, hkind]

lemma next_of_isBlob (h : shape.isBlob = true) (reach : Reach) : reach.next shape = [] := by
  obtain ⟨id, traits, body⟩ := shape
  cases body <;> simp [isBlob, kind] at h
  simp [Reach.next, references]

end Shape

/-- What holds a blob does not lead back to its own structure. -/
lemma Model.isRecursive_of_blob {model : Model} (hmodel : model.WellFormed) {shape target : Shape}
    (htarget : model.memberTarget shape = .ok target) (hblob : target.isBlob = true) :
    SymbolStage.isRecursive model shape = false := by
  obtain ⟨next, hnext, hget⟩ := memberTarget_eq_ok.1 htarget
  obtain ⟨container, hbody⟩ := body_eq_of_target? hnext
  rw [SymbolStage.isRecursive, hbody, Bool.eq_false_iff]
  intro hrecursive
  simp only [Bool.and_eq_true, Option.any_eq_true, reaches_iff hmodel] at hrecursive
  obtain ⟨⟨envelope, henvelope, haggregate⟩, _, hleads⟩ := hrecursive
  -- a blob refers to nothing, so that it would have to be the structure itself
  rw [hleads.eq_of_next hget (Shape.next_of_isBlob hblob .cut), hget] at henvelope
  rw [← Option.some.inj henvelope, Shape.isAggregate_of_isBlob hblob] at haggregate
  contradiction

/-! ## Symbols -/

namespace Project

variable {p : Project} {shape : Shape}

/-- The type that the runtime's stream has at its core. -/
def streamCore (p : Project) : String × Option String :=
  ("ByteStream", some (SymbolStage.serverTypes p.serverCrate))

/-- Later stages leave the stream as it is. -/
lemma finish_stream (hmodel : p.model.WellFormed) {target : Shape}
    (htarget : p.model.memberTarget shape = .ok target) (hblob : target.isBlob = true) :
    p.finish shape (SymbolStage.stream p.serverCrate) = SymbolStage.stream p.serverCrate := by
  have hwrap :
      p.wrap shape (SymbolStage.stream p.serverCrate) = SymbolStage.stream p.serverCrate := by
    unfold wrap
    split <;> rfl
  have haggregate : shape.isAggregate = false := by
    obtain ⟨next, hnext, _⟩ := Model.memberTarget_eq_ok.1 htarget
    obtain ⟨container, hbody⟩ := Model.body_eq_of_target? hnext
    simp [Shape.isAggregate, Shape.isRecord, Shape.isUnion, Shape.kind, hbody]
  rw [finish_eq (.inl rfl), hwrap, SymbolStage.boxRecursive,
    if_neg (by simp [Model.isRecursive_of_blob hmodel htarget hblob]), SymbolStage.dropEquality,
    if_neg (by simp [haggregate])]

/-! ## Other types -/

/-- What is made of a plain symbol does not have the stream at its core. -/
lemma core_finish_ne_stream {first : Symbol}
    (hfirst : PlainSymbols.symbol (.ofProject p) shape = .ok first) :
    (p.finish shape first).type.core ≠ p.streamCore := by
  obtain ⟨origin, plain, htyped, hown, hmade⟩ := PlainSymbols.exists_origin hfirst
  have howned := PlainSymbols.owned_of_own htyped.isHolder_origin hown
  rcases core_finish howned hmade with hcore | ⟨name, hwrapper, hcore⟩
  · rw [hcore]
    exact fun h => core_ne_serverTypes howned (congrArg Prod.snd h)
  · rw [hcore]
    intro h
    have hname : name = "ByteStream" := congrArg Prod.fst h
    rcases SymbolStage.eq_of_wrapperWithin hwrapper with rfl | rfl <;> contradiction

end Project

/-! ## Finished runs -/

/-- In a finished run, a shape has the runtime's stream as its type exactly if it is a streaming
member of an envelope, whose target is a blob then, and which is neither optional nor boxed. All
other symbols are those of the chain without the stage for streams. -/
theorem streams_confined {i : Command.Input} {denyWarnings : Bool} {d : DecoratorSet}
    {c : Compilation} (hmodel : i.model.IsBuilt) (hrun : i.compile denyWarnings = .ok (d, c))
    {id : ShapeId} {shape : Shape} {symbol : Symbol} (hfound : c.found? id = some (shape, symbol)) :
    (symbol.type.core = c.project.streamCore ↔ c.project.model.StreamsInEnvelope shape) ∧
    (c.project.model.StreamsInEnvelope shape →
      (∃ target, c.project.model.memberTarget shape = .ok target ∧ target.isBlob = true) ∧
      symbol.type = .named "ByteStream" (some (SymbolStage.serverTypes c.project.serverCrate)) ∧
      symbol.nullable = false ∧ symbol.boxed = false ∧ symbol.wrapped = true) ∧
    (¬c.project.model.StreamsInEnvelope shape →
      ((plainChain c.project).complete c.project).provider.symbol shape = .ok symbol) := by
  obtain ⟨_, _, t, h⟩ := resolved_of_compile hmodel hrun
  have hget := (h.of_found? hfound).1
  obtain ⟨_, _, hsymbol⟩ := h.found?_eq_some_iff.1 hfound
  obtain ⟨first, hfirst, rfl⟩ := Project.symbolOf_eq_ok.1 hsymbol
  -- the stage for streams decides, and what comes after it takes nothing back
  rcases Project.of_begun_eq_ok hfirst with ⟨hstreams, rfl⟩ | ⟨hplain, hsame⟩
  · obtain ⟨target, htarget, hblob⟩ :=
      h.exists_blob_of_isStreaming hrun hget hstreams.isMember hstreams.isStreaming
    rw [Project.finish_stream h.model htarget hblob]
    exact ⟨iff_of_true rfl hstreams, fun _ => ⟨⟨target, htarget, hblob⟩, rfl, rfl, rfl, rfl⟩,
      fun hnot => absurd hstreams hnot⟩
  · refine ⟨iff_of_false (Project.core_finish_ne_stream hsame) hplain, fun hstreams =>
      absurd hstreams hplain, fun _ => ?_⟩
    rw [Project.symbol_complete]
    exact map_eq_ok.2 ⟨first, hsame, rfl⟩

/-! ## Two photos -/

/-- A service that takes the bytes of one photo, and a structure that has those of another. -/
def twoPhotos : List Shape :=
  Command.Input.service [("photo", ⟨"ex", "Bytes", none⟩), ("last", ⟨"ex", "Photo", none⟩)]
    (Command.Input.record ⟨"ex", "Photo", none⟩ [("body", ⟨"ex", "Bytes", none⟩)] ++
      [⟨⟨"ex", "Bytes", none⟩, ({} : Traits).insert .streaming, .blob⟩])

/-- The first photo is a stream. The bytes of the other are not, though they are marked as one. -/
theorem streams_confined_of_twoPhotos : ∃ d c photo stream body blob,
    (Command.Input.small twoPhotos).model.IsBuilt ∧
    (Command.Input.small twoPhotos).compile false = .ok (d, c) ∧
    c.found? ⟨"ex.synthetic", "OpInput", some "photo"⟩ = some (photo, stream) ∧
    c.found? ⟨"ex", "Photo", some "body"⟩ = some (body, blob) ∧
    c.project.model.StreamsInEnvelope photo ∧ stream.boxed = false ∧
    stream.type = .named "ByteStream" (some (SymbolStage.serverTypes c.project.serverCrate)) ∧
    c.project.model.isStreaming body = true ∧ ¬c.project.model.StreamsInEnvelope body ∧
    ((plainChain c.project).complete c.project).provider.symbol body = .ok blob := by
  have hfacts : ((Command.Input.finished? twoPhotos).any fun c =>
      (c.found? ⟨"ex.synthetic", "OpInput", some "photo"⟩).any (fun found => found.2.type.core ==
        c.project.streamCore) &&
      (c.found? ⟨"ex", "Photo", some "body"⟩).any (fun found =>
        c.project.model.isStreaming found.1 && found.2.type.core != c.project.streamCore)) =
          true := by
    decide +kernel
  obtain ⟨c, hc, hfacts⟩ := (Option.any_eq_true _ _).1 hfacts
  simp only [Bool.and_eq_true, Option.any_eq_true, Prod.exists, beq_iff_eq, bne_iff_ne] at hfacts
  obtain ⟨⟨photo, stream, hphoto, hcore⟩, body, blob, hbody, hmarked, hother⟩ := hfacts
  obtain ⟨hmodel, hrun⟩ := Command.Input.of_finished? hc
  obtain ⟨hiff, hstream, _⟩ := streams_confined hmodel hrun hphoto
  obtain ⟨_, htype, _, hboxed, _⟩ := hstream (hiff.1 hcore)
  obtain ⟨hiff', _, hsame⟩ := streams_confined hmodel hrun hbody
  have hconfined := fun hstreams => hother (hiff'.2 hstreams)
  exact ⟨_, c, photo, stream, body, blob, hmodel, hrun, hphoto, hbody, hiff.1 hcore, hboxed, htype,
    hmarked, hconfined, hsame hconfined⟩

end SdkForge
