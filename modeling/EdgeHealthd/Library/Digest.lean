import Mathlib.Logic.Function.Basic

/-!
Digests that fold one step over the symbols of an input. Where a step loses
neither the state nor the symbol, inputs that differ in one symbol have different
digests.
-/

namespace Digest

variable {State Symbol : Type*}

structure Lossless (step : State → Symbol → State) : Prop where
  state : ∀ symbol, Function.Injective fun state => step state symbol
  symbol : ∀ state, Function.Injective (step state)

namespace Lossless

variable {step : State → Symbol → State} (lossless : Lossless step)

include lossless

theorem foldl_injective (symbols : List Symbol) :
    Function.Injective fun state => symbols.foldl step state := by
  induction symbols with
  | nil => exact Function.injective_id
  | cons symbol rest ih => exact ih.comp (lossless.state symbol)

theorem foldl_ne (before after : List Symbol) {first second : Symbol} (differ : first ≠ second)
    (start : State) :
    (before ++ first :: after).foldl step start ≠ (before ++ second :: after).foldl step start := by
  rw [List.foldl_append, List.foldl_append, List.foldl_cons, List.foldl_cons]
  intro same
  exact differ (lossless.symbol _ (lossless.foldl_injective after same))

end Lossless

end Digest
