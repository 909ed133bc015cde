import SdkForge.Symbol.Provider

/-!
# Remembered symbols

A memo keeps the symbols that a provider gave, so that the provider is asked once for a shape. A
request that fails is not remembered.

Asking can be an action, such as one that counts. Where it is none, `Memo.request` gives the answer
and the memo after it.
-/

namespace SdkForge

/-- The symbols that a provider gave, by shape. -/
structure Memo where
  known : OrderedMap ShapeId Symbol := .empty

namespace Memo

/-- The memo after its provider's answer. -/
def learn (memo : Memo) (shape : Shape) : Except Fault Symbol → Memo
  | .ok symbol => ⟨memo.known.insert shape.id symbol⟩
  | .error _ => memo

section Action

variable {m : Type → Type} [Monad m] (ask : Shape → m (Except Fault Symbol))

/-- The answer to a request, and the memo after it, where the provider is asked by an action. -/
def requestBy (memo : Memo) (shape : Shape) : m (Except Fault Symbol × Memo) :=
  match memo.known.get? shape.id with
  | some symbol => pure (.ok symbol, memo)
  | none => do
    let answer ← ask shape
    pure (answer, memo.learn shape answer)

/-- The answers to requests one after the other, and the memo after them. -/
def requestAllBy (memo : Memo) : List Shape → m (List (Except Fault Symbol) × Memo)
  | [] => pure ([], memo)
  | shape :: rest => do
    let (answer, memo) ← requestBy ask memo shape
    let (answers, memo) ← requestAllBy memo rest
    pure (answer :: answers, memo)

end Action

/-- The answer to a request, and the memo after it. -/
def request (memo : Memo) (p : SymbolProvider) (shape : Shape) : Except Fault Symbol × Memo :=
  Id.run (memo.requestBy (pure ∘ p.symbol) shape)

/-- The answers to requests one after the other, and the memo after them. -/
def requestAll (p : SymbolProvider) (memo : Memo) (requests : List Shape) :
    List (Except Fault Symbol) × Memo :=
  Id.run (memo.requestAllBy (pure ∘ p.symbol) requests)

/-- The stage that remembers. What it gives for a shape is what an empty memo answers; in the course
of requests, a memo answers the same (`requests_transparent`). -/
def stage : SymbolStage := fun inner =>
  { inner with name := "memoize", symbol := fun shape => (Memo.request {} inner shape).1 }

end Memo

end SdkForge
