/-!
# Computations that ask for the values of names

An inquiry either has its answer or asks for a name and goes on with the reply, which
may be that the name is unknown. It says which names are asked for, in which order
and how the replies are used, and nothing about where replies come from.

An environment gives the replies. Its state may change with each name, so a name may
have another value the next time. Running an inquiry in an environment yields the
answer, the names that were asked for and the state that is left.
-/

namespace WindowPlacement

/-- A computation that may ask for the values of names. -/
inductive Inquiry (α : Type) where
  /-- Nothing is left to ask. -/
  | answer (value : α)
  /-- The value of a name is asked for. -/
  | ask (name : String) (next : Option Float → Inquiry α)

namespace Inquiry

variable {α β : Type}

/-- Goes on with another computation after the answer. -/
def bind : Inquiry α → (α → Inquiry β) → Inquiry β
  | .answer value, following => following value
  | .ask name next, following => .ask name fun reply => (next reply).bind following

instance : Monad Inquiry where
  pure := .answer
  bind := bind

/-- Asking for nothing after the answer changes nothing. -/
theorem bind_answer (inquiry : Inquiry α) : inquiry.bind .answer = inquiry := by
  induction inquiry with
  | answer value => rfl
  | ask name next inductionHypothesis => simp [bind, inductionHypothesis]

/-- What follows may be joined in either order. -/
theorem bind_assoc {γ : Type} (inquiry : Inquiry α) (second : α → Inquiry β)
    (third : β → Inquiry γ) :
    (inquiry.bind second).bind third = inquiry.bind fun value => (second value).bind third := by
  induction inquiry with
  | answer value => rfl
  | ask name next inductionHypothesis => simp [bind, inductionHypothesis]

instance : LawfulMonad Inquiry := LawfulMonad.mk' _ bind_answer (fun _ _ => rfl) bind_assoc

/-- Asks for one name. -/
def askFor (name : String) : Inquiry (Option Float) := .ask name .answer

end Inquiry

/-- Gives replies to names. The state `σ` is what a reply may depend on and change. -/
structure Environment (σ : Type) where
  /-- The reply to a name, and the state after it. -/
  reply : σ → String → Option Float × σ

namespace Environment

/-- Replies that depend on the name alone, whatever the state. -/
def ofLookup {σ : Type} (lookup : String → Option Float) : Environment σ :=
  ⟨fun state name => (lookup name, state)⟩

/-- Replies given in a fixed order, whatever the names; at the end nothing is known. -/
def inSequence : Environment (List (Option Float)) where
  reply
    | [], _ => (none, [])
    | value :: later, _ => (value, later)

end Environment

/-- What running an inquiry leaves. -/
structure Transcript (σ α : Type) where
  /-- The answer. -/
  answer : α
  /-- The names that were asked for, in that order. -/
  asked : List String
  /-- The state of the environment afterwards. -/
  state : σ

/-- Runs an inquiry in an environment. -/
def Inquiry.run {σ α : Type} (environment : Environment σ) : Inquiry α → σ → Transcript σ α
  | .answer value, state => ⟨value, [], state⟩
  | .ask name next, state =>
    let (reply, later) := environment.reply state name
    let transcript := (next reply).run environment later
    { transcript with asked := name :: transcript.asked }

end WindowPlacement
