import SdkForge.Proofs.Pipeline

/-!
# Remembered symbols are those of the provider

A memo answers like the provider behind it, and asks the provider only for what it does not know. To
count how often it asks, the provider is made one that notes the ids that it is asked for.

* `Memo.requestBy` is a request to a memo whose provider is asked by an action.
  `Memo.fst_requestAllBy_noting` says that requests to a provider that takes notes are answered like
  those without.
* `Memo.History` is the invariant: what is known, and what has been asked, after some requests.
* `Memo.requests_transparent` says it of all requests for shapes of one model.
-/

namespace SdkForge.Memo

/-! ## Providers that take notes -/

/-- The provider's answer. The id that it is asked for is noted after the earlier ones. -/
def noting (p : SymbolProvider) (shape : Shape) : StateM (List ShapeId) (Except Fault Symbol) := do
  modify (· ++ [shape.id])
  return p.symbol shape

variable {p : SymbolProvider} {memo : Memo} {shape : Shape} {symbol : Symbol} {seen : List Shape}
  {asked : List ShapeId}

/-- What is known is answered without the provider. -/
lemma requestBy_of_known (hknown : memo.known.get? shape.id = some symbol) :
    (memo.requestBy (noting p) shape).run asked = ((.ok symbol, memo), asked) := by
  rw [requestBy, hknown]
  rfl

/-- What is not known is asked for, and kept if it is found. -/
lemma requestBy_of_unknown (hknown : memo.known.get? shape.id = none) :
    (memo.requestBy (noting p) shape).run asked =
      ((p.symbol shape, memo.learn shape (p.symbol shape)), asked ++ [shape.id]) := by
  rw [requestBy, hknown]
  rfl

/-- Taking notes changes no answer. -/
lemma fst_requestBy_noting (p : SymbolProvider) (memo : Memo) (shape : Shape)
    (asked : List ShapeId) :
    ((memo.requestBy (noting p) shape).run asked).1 = memo.request p shape := by
  rw [request]
  cases hknown : memo.known.get? shape.id with
  | some symbol =>
    rw [requestBy_of_known hknown, requestBy, hknown]
    rfl
  | none =>
    rw [requestBy_of_unknown hknown, requestBy, hknown]
    rfl

/-- The first request is answered, and then the others. -/
lemma run_requestAllBy_cons (p : SymbolProvider) (memo : Memo) (shape : Shape) (rest : List Shape)
    (asked : List ShapeId) :
    (memo.requestAllBy (noting p) (shape :: rest)).run asked =
      let first := (memo.requestBy (noting p) shape).run asked
      let later := (first.1.2.requestAllBy (noting p) rest).run first.2
      ((first.1.1 :: later.1.1, later.1.2), later.2) := rfl

/-- Nor does it change the answers to many requests. -/
lemma fst_requestAllBy_noting (p : SymbolProvider) (memo : Memo) (requests : List Shape)
    (asked : List ShapeId) :
    ((memo.requestAllBy (noting p) requests).run asked).1 = requestAll p memo requests := by
  induction requests generalizing memo asked with
  | nil => rfl
  | cons shape rest ih =>
    rw [run_requestAllBy_cons]
    dsimp only
    rw [ih, fst_requestBy_noting]
    rfl

/-! ## What is known, and what was asked for -/

/-- What a memo knows after the requests that were seen, and the ids that its provider was asked
for. -/
structure History (p : SymbolProvider) (seen : List Shape) (memo : Memo) (asked : List ShapeId) :
    Prop where
  /-- The memo knows the symbols that were found. -/
  known : ∀ id symbol, memo.known.get? id = some symbol ↔ ∃ shape ∈ seen, shape.id = id ∧
    p.symbol shape = .ok symbol
  /-- What is known was asked for once, and what is not known as often as it was requested. -/
  count : ∀ id, asked.count id = if (memo.known.get? id).isSome then 1
    else (seen.map (·.id)).count id

lemma history_nil (p : SymbolProvider) : History p [] {} [] where
  known := by simp
  count := by simp

variable {id : ShapeId}

lemma exists_found_snoc : (∃ other ∈ seen ++ [shape], other.id = id ∧ p.symbol other = .ok symbol) ↔
    (∃ other ∈ seen, other.id = id ∧ p.symbol other = .ok symbol) ∨ shape.id = id ∧
    p.symbol shape = .ok symbol := by
  simp only [List.mem_append, List.mem_singleton, or_and_right, exists_or, exists_eq_left]

/-- What is found is asked for once. -/
lemma History.count_of_found (h : History p seen memo asked) (hshape : shape ∈ seen)
    (hsymbol : p.symbol shape = .ok symbol) :
    asked.count shape.id = 1 := by
  rw [h.count, (h.known _ _).2 ⟨shape, hshape, rfl, hsymbol⟩]
  rfl

/-- What is never found is asked for each time. -/
lemma History.count_of_fails (h : History p seen memo asked)
    (hfails : ∀ other ∈ seen, other.id = id → ∀ symbol, p.symbol other ≠ .ok symbol) :
    asked.count id = (seen.map (·.id)).count id := by
  have hnone : memo.known.get? id = none := by
    rw [Option.eq_none_iff_forall_ne_some]
    intro symbol hknown
    obtain ⟨other, hother, hid, hsymbol⟩ := (h.known _ _).1 hknown
    exact hfails other hother hid symbol hsymbol
  rw [h.count, hnone]
  rfl

lemma count_snoc (seen : List Shape) (shape : Shape) (id : ShapeId) :
    ((seen ++ [shape]).map (·.id)).count id = (seen.map (·.id)).count id + [shape.id].count id := by
  simp [List.count_append]

/-- A request for what is known changes nothing. -/
lemma History.snoc_of_known (h : History p seen memo asked)
    (hknown : memo.known.get? shape.id = some symbol) (hsymbol : p.symbol shape = .ok symbol) :
    History p (seen ++ [shape]) memo asked where
  known id found := by
    rw [exists_found_snoc, ← h.known, or_iff_left_of_imp]
    rintro ⟨rfl, hfound⟩
    rw [hknown, ← Except.ok.inj (hsymbol.symm.trans hfound)]
  count id := by
    rw [h.count, count_snoc]
    by_cases hid : shape.id = id
    · simp [← hid, hknown]
    · simp [hid]

/-- A request that fails is only noted. -/
lemma History.snoc_of_fails (h : History p seen memo asked)
    (hknown : memo.known.get? shape.id = none) {fault : Fault}
    (hsymbol : p.symbol shape = .error fault) :
    History p (seen ++ [shape]) memo (asked ++ [shape.id]) where
  known id found := by
    rw [exists_found_snoc, ← h.known, hsymbol]
    simp
  count id := by
    rw [List.count_append, h.count, count_snoc]
    by_cases hid : shape.id = id
    · simp [← hid, hknown]
    · simp [hid]

/-- What is found for the first time is noted, and known from then on. -/
lemma History.snoc_of_found (h : History p seen memo asked) (hfresh : shape.id ∉ seen.map (·.id))
    (hknown : memo.known.get? shape.id = none) (hsymbol : p.symbol shape = .ok symbol) :
    History p (seen ++ [shape]) ⟨memo.known.insert shape.id symbol⟩ (asked ++ [shape.id]) where
  known id found := by
    rw [exists_found_snoc, ← h.known, hsymbol, OrderedMap.get?_insert]
    by_cases hid : shape.id = id
    · simp [← hid, hknown]
    · simp [hid, Ne.symm hid]
  count id := by
    rw [List.count_append, h.count, count_snoc, OrderedMap.get?_insert]
    by_cases hid : shape.id = id
    · simp [← hid, hknown, List.count_eq_zero_of_not_mem hfresh]
    · simp [hid, Ne.symm hid]

/-- Each request is answered like the provider answers it, and is added to the history. -/
theorem History.snoc (h : History p seen memo asked)
    (hsame : ∀ other ∈ seen, other.id = shape.id → other = shape) :
    ∃ memo' asked', (memo.requestBy (noting p) shape).run asked =
      ((p.symbol shape, memo'), asked') ∧
      History p (seen ++ [shape]) memo' asked' := by
  cases hknown : memo.known.get? shape.id with
  | some symbol =>
    -- the shape was seen before, and found
    obtain ⟨other, hother, hid, hsymbol⟩ := (h.known _ _).1 hknown
    obtain rfl := hsame other hother hid
    exact ⟨memo, asked, by rw [requestBy_of_known hknown, hsymbol], h.snoc_of_known hknown hsymbol⟩
  | none =>
    refine ⟨_, _, requestBy_of_unknown hknown, ?_⟩
    cases hsymbol : p.symbol shape with
    | error fault => exact h.snoc_of_fails hknown hsymbol
    | ok symbol =>
      -- no shape with the id was seen before, since it would have been found then
      have hfresh : shape.id ∉ seen.map (·.id) := by
        intro hmem
        obtain ⟨other, hother, hid⟩ := List.mem_map.1 hmem
        have hfound := (h.known _ _).2 ⟨other, hother, hid, by rw [hsame other hother hid, hsymbol]⟩
        rw [hknown] at hfound
        contradiction
      exact h.snoc_of_found hfresh hknown hsymbol

/-- So are requests one after the other, where no two shapes have one id. -/
theorem History.append {requests : List Shape} (h : History p seen memo asked)
    (hsame : ∀ a ∈ seen ++ requests, ∀ b ∈ seen ++ requests, a.id = b.id → a = b) :
    ∃ memo' asked', (memo.requestAllBy (noting p) requests).run asked =
      ((requests.map p.symbol, memo'), asked') ∧
      History p (seen ++ requests) memo' asked' := by
  induction requests generalizing seen memo asked with
  | nil => exact ⟨memo, asked, rfl, by rwa [List.append_nil]⟩
  | cons shape rest ih =>
    rw [List.append_cons] at hsame ⊢
    obtain ⟨next, between, hfirst, hnext⟩ := h.snoc fun other hother =>
      hsame other (by simp [hother]) shape (by simp)
    obtain ⟨last, later, hrest, hlast⟩ := ih hnext hsame
    refine ⟨last, later, ?_, hlast⟩
    rw [run_requestAllBy_cons, hfirst]
    dsimp only
    rw [hrest, List.map_cons]

/-! ## Requests for shapes of a model -/

/-- Requests for shapes of one model are answered like the provider answers them. The provider is
asked once for an id whose symbol is found, each time for one whose symbol is not, and for no other.
What the memo knows are the symbols that were found. -/
theorem requests_transparent {model : Model} (hmodel : model.WellFormed) (p : SymbolProvider)
    {requests : List Shape} (hmem : ∀ shape ∈ requests, shape ∈ model.toList) : ∃ memo asked,
    requestAll p {} requests = (requests.map p.symbol, memo) ∧
    (requestAllBy (noting p) {} requests).run [] = ((requests.map p.symbol, memo), asked) ∧
    (∀ shape ∈ requests, ∀ symbol, p.symbol shape = .ok symbol → asked.count shape.id = 1) ∧
    (∀ shape ∈ requests, ∀ fault, p.symbol shape = .error fault →
      asked.count shape.id = (requests.map (·.id)).count shape.id) ∧
    (∀ id ∈ asked, id ∈ requests.map (·.id)) ∧
    ∀ id symbol, memo.known.get? id = some symbol ↔ ∃ shape ∈ requests, shape.id = id ∧
      p.symbol shape = .ok symbol := by
  have hsame : ∀ a ∈ requests, ∀ b ∈ requests, a.id = b.id → a = b := by
    intro a ha b hb hid
    have hget := (Model.mem_toList_iff hmodel).1 (hmem a ha)
    rw [hid, (Model.mem_toList_iff hmodel).1 (hmem b hb)] at hget
    exact (Option.some.inj hget).symm
  obtain ⟨memo, asked, hrun, h⟩ := (history_nil p).append hsame
  rw [List.nil_append] at h
  refine ⟨memo, asked, ?_, hrun, fun shape hshape symbol => h.count_of_found hshape, ?_,
    ?_, h.known⟩
  · rw [← fst_requestAllBy_noting, hrun]
  · intro shape hshape fault hfault
    refine h.count_of_fails fun other hother hid symbol hsymbol => ?_
    rw [hsame other hother shape hshape hid, hfault] at hsymbol
    contradiction
  · intro id hasked
    by_contra hnot
    have hcount : asked.count id = (requests.map (·.id)).count id :=
      h.count_of_fails fun shape hshape hid => absurd (List.mem_map.2 ⟨shape, hshape, hid⟩) hnot
    rw [List.count_eq_zero_of_not_mem hnot] at hcount
    exact absurd hasked (List.count_eq_zero.1 hcount)

/-- A string. -/
def code : Shape := { id := ⟨"ex", "Code", none⟩, body := .string }

/-- A list whose elements should be given by a member, and are given by the string. -/
def codes : Shape := { id := ⟨"ex", "Codes", none⟩, body := .list code.id }

/-- The string has a symbol, and is asked for once. The list has none, and is asked for each
time. -/
theorem requests_transparent_of_code :
    let model := (Command.Input.small [code, codes]).model
    let p := PlainSymbols.provider ⟨model, "types", .server⟩
    let requests := [code, codes, code, codes]
    model.WellFormed ∧ (∀ shape ∈ requests, shape ∈ model.toList) ∧ ∃ memo asked,
      (requestAllBy (noting p) {} requests).run [] = ((requests.map p.symbol, memo), asked) ∧
      asked.count code.id = 1 ∧ asked.count codes.id = 2 ∧
      memo.known.get? code.id = some (.external "String") ∧
      p.symbol code = .ok (.external "String") := by
  intro model p requests
  obtain ⟨hbuild, hmem, hfound, hfails⟩ :
      (Model.Draft.ofList [code, codes]).build.toOption.isSome = true ∧
      (∀ shape ∈ requests, shape ∈ model.toList) ∧ p.symbol code = .ok (.external "String") ∧
      p.symbol codes = .error (.model (.wrongKind code.id .member .string)) := by
    decide +kernel
  have hmodel : model.WellFormed := (Command.Input.isBuilt_small hbuild).wellFormed
  obtain ⟨memo, asked, -, hrun, honce, heach, -, hknown⟩ := requests_transparent hmodel p hmem
  refine ⟨hmodel, hmem, memo, asked, hrun, ?_, ?_, ?_, hfound⟩
  · exact honce code (by simp [requests]) _ hfound
  · exact heach codes (by simp [requests]) _ hfails
  · exact (hknown _ _).2 ⟨code, by simp [requests], rfl, hfound⟩

end SdkForge.Memo
