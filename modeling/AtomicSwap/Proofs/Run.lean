import AtomicSwap.Proofs.Step
import Mathlib.Data.List.Induction

/-!
Runs of a chain: any actions, one after the other, from an empty chain. What holds at the start and
is kept by each action holds after every run.
-/

set_option autoImplicit false
set_option relaxedAutoImplicit false

namespace AtomicSwap

namespace Chain

def run (c : Chain) (as : List Action) : Chain := as.foldl step c

theorem run_append (c : Chain) (as bs : List Action) : c.run (as ++ bs) = (c.run as).run bs :=
  List.foldl_append

/-- The actions of a run, each with what it was answered. -/
def answers (c : Chain) : List Action → List (Action × Option (Except TransferError Record))
  | [] => []
  | a :: as => (a, c.reply a) :: (c.step a).answers as

theorem answers_concat (c : Chain) (as : List Action) (a : Action) :
    c.answers (as ++ [a]) = c.answers as ++ [(a, (c.run as).reply a)] := by
  induction as generalizing c with
  | nil => rfl
  | cons b as ih =>
    simp only [List.cons_append, answers, ih]
    rfl

end Chain

/-- What a chain starts from: its configuration, who holds its escrow, and the time at first. -/
structure Origin where
  config : Config
  custodian : Address
  now : Seconds
deriving DecidableEq

namespace Origin

def chain (o : Origin) : Chain := (Chain.deploy o.config o.custodian).setTime o.now

def after (o : Origin) (as : List Action) : Chain := o.chain.run as

theorem after_append (o : Origin) (as bs : List Action) :
    o.after (as ++ bs) = (o.after as).run bs :=
  Chain.run_append o.chain as bs

theorem after_concat (o : Origin) (as : List Action) (a : Action) :
    o.after (as ++ [a]) = (o.after as).step a :=
  o.after_append as [a]

theorem after_setTime (o : Origin) (as : List Action) (time : Seconds) :
    o.after (as ++ [.setTime time]) = (o.after as).setTime time :=
  o.after_concat as (.setTime time)

theorem now_after_setTime (o : Origin) (as : List Action) (time : Seconds) :
    (o.after (as ++ [.setTime time])).now = time := by
  rw [after_setTime]
  rfl

theorem get?_after_nil (o : Origin) (k : TransferId) : (o.after []).get? k = none := rfl

end Origin

end AtomicSwap
