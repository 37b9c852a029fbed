import Mathlib.Data.List.Basic

/-!
# Programs that put questions to their environment

A program is a tree of questions: a node puts one question and goes on with
the answer.  The environment may be the rest of the system, which answers one
question at a time, or an oracle that answers them all at once.

A program is judged by its own past, the questions it has put with the answers
it was given.  That it keeps a contract whatever the answers are is a property
of the program alone; it survives every answer, and so holds of the program at
every moment of every run.
-/

namespace Dialogues

/-- A program that puts questions and returns a result. -/
inductive Dialogue (Question : Type) (Answer : Question → Type) (Result : Type) where
  | done (res : Result)
  | ask (question : Question) (next : Answer question → Dialogue Question Answer Result)

/-- A question with the answer that was given. -/
abbrev Turn (Question : Type) (Answer : Question → Type) := (question : Question) × Answer question

/-- An answer to every question. -/
abbrev Oracle {Question : Type} (Answer : Question → Type) :=
  (question : Question) → Answer question

namespace Dialogue

variable {Question : Type} {Answer : Question → Type} {Result Other : Type}

def bind : Dialogue Question Answer Result →
    (Result → Dialogue Question Answer Other) → Dialogue Question Answer Other
  | .done res, rest => rest res
  | .ask question next, rest => .ask question fun answer => (next answer).bind rest

instance : Monad (Dialogue Question Answer) where
  pure := .done
  bind := bind

def question? : Dialogue Question Answer Result → Option Question
  | .done _ => none
  | .ask question _ => some question

def result? : Dialogue Question Answer Result → Option Result
  | .done res => some res
  | .ask _ _ => none

theorem eq_done_of_result? {prog : Dialogue Question Answer Result}
    {res : Result} (returned : prog.result? = some res) : prog = .done res := by
  cases prog with
  | done other => rw [Option.some.inj returned]
  | ask question next => cases returned

def resolve (oracle : Oracle Answer) :
    Dialogue Question Answer Result → Result
  | .done res => res
  | .ask question next => (next (oracle question)).resolve oracle

variable (oracle : Oracle Answer)

@[simp]
theorem resolve_bind {prog : Dialogue Question Answer Result}
    {rest : Result → Dialogue Question Answer Other} :
    (prog >>= rest).resolve oracle = (rest (prog.resolve oracle)).resolve oracle := by
  induction prog with
  | done res => rfl
  | ask question next induction => exact induction (oracle _)

@[simp]
theorem resolve_pure (res : Result) :
    (pure res : Dialogue Question Answer Result).resolve oracle = res :=
  rfl

/-- A loop is a fold of its resolved rounds. -/
@[simp]
theorem resolve_foldlM {Item State : Type} {round : State → Item → Dialogue Question Answer State}
    {items : List Item} {state : State} : (items.foldlM round state).resolve oracle =
    items.foldl (fun state item => (round state item).resolve oracle) state := by
  induction items generalizing state with
  | nil => rfl
  | cons item rest induction => rw [List.foldlM_cons, resolve_bind, induction, List.foldl_cons]

/-- Run a program against a state that answers it. -/
def exec {State : Type} (answer : State → (question : Question) → State × Answer question) :
    State → Dialogue Question Answer Result → State × Result
  | state, .done res => (state, res)
  | state, .ask question next =>
    exec answer (answer state question).1 (next (answer state question).2)

/-- Every question is put as a program of its own. -/
def expand {Question' : Type} {Answer' : Question' → Type}
    (implement : (question : Question) → Dialogue Question' Answer' (Answer question)) :
    Dialogue Question Answer Result → Dialogue Question' Answer' Result
  | .done res => .done res
  | .ask question next => implement question >>= fun answer => (next answer).expand implement

/-- What answers the lower level answers the questions of the upper one. -/
theorem resolve_expand {Question' : Type} {Answer' : Question' → Type}
    {implement : (question : Question) → Dialogue Question' Answer' (Answer question)}
    {oracle : (question : Question') → Answer' question}
    {prog : Dialogue Question Answer Result} : (prog.expand implement).resolve oracle =
    prog.resolve fun question => (implement question).resolve oracle := by
  induction prog with
  | done res => rfl
  | ask question next induction =>
    rw [expand, resolve_bind, induction]
    rfl

section

variable
  {guard : List (Turn Question Answer) → Question → Prop}
  {post : List (Turn Question Answer) → Result → Prop}
  {past : List (Turn Question Answer)}

/--
Every question the program puts is justified by the past at that moment, and
so is its result, whatever the answers are.
-/
def Keeps (guard : List (Turn Question Answer) → Question → Prop)
    (post : List (Turn Question Answer) → Result → Prop) :
    List (Turn Question Answer) → Dialogue Question Answer Result → Prop
  | past, .done res => post past res
  | past, .ask question next =>
    guard past question ∧ ∀ answer, Keeps guard post (past ++ [⟨question, answer⟩]) (next answer)

/-- The contract of a program survives an answer. -/
theorem Keeps.next {question : Question} {next : Answer question → Dialogue Question Answer Result}
    (keeps : Keeps guard post past (.ask question next))
    (answer : Answer question) : Keeps guard post (past ++ [⟨question, answer⟩]) (next answer) :=
  keeps.2 _

variable {prog : Dialogue Question Answer Result}

theorem Keeps.widen {wider : List (Turn Question Answer) → Question → Prop}
    (keeps : Keeps guard post past prog)
    (implies : ∀ past question, guard past question → wider past question) :
    Keeps wider post past prog := by
  induction prog generalizing past with
  | done res => exact keeps
  | ask question next induction =>
    exact ⟨implies _ _ keeps.1, fun answer => induction answer (keeps.2 _)⟩

theorem Keeps.imp {weaker : List (Turn Question Answer) → Result → Prop}
    (keeps : Keeps guard post past prog) (implies : ∀ past res, post past res → weaker past res) :
    Keeps guard weaker past prog := by
  induction prog generalizing past with
  | done res => exact implies _ _ keeps
  | ask question next induction => exact ⟨keeps.1, fun answer => induction answer (keeps.2 _)⟩

/-- What every permitted turn preserves is known at every question. -/
theorem Keeps.carry (keeps : Keeps guard post past prog)
    (invariant : List (Turn Question Answer) → Prop) (initial : invariant past)
    (preserved : ∀ past question answer,
      guard past question → invariant past → invariant (past ++ [⟨question, answer⟩])) :
    Keeps (fun past question => guard past question ∧ invariant past)
      (fun past res => post past res ∧ invariant past) past prog := by
  induction prog generalizing past with
  | done res => exact ⟨keeps, initial⟩
  | ask question next induction =>
    exact
      ⟨⟨keeps.1, initial⟩, fun answer =>
        induction answer (keeps.2 answer) (preserved past question answer keeps.1 initial)⟩

/-- What every permitted turn preserves, the program preserves. -/
theorem Keeps.preserve (keeps : Keeps guard post past prog)
    (invariant : List (Turn Question Answer) → Prop) (initial : invariant past)
    (preserved : ∀ past question answer,
      guard past question → invariant past → invariant (past ++ [⟨question, answer⟩])) :
    Keeps guard (fun past res => post past res ∧ invariant past) past prog :=
  (keeps.carry _ initial preserved).widen fun _ _ allowed => allowed.1

theorem Keeps.bind {after : List (Turn Question Answer) → Other → Prop}
    {rest : Result → Dialogue Question Answer Other} (keeps : Keeps guard post past prog)
    (continues : ∀ past res, post past res → Keeps guard after past (rest res)) :
    Keeps guard after past (prog >>= rest) := by
  induction prog generalizing past with
  | done res => exact continues _ _ keeps
  | ask question next induction => exact ⟨keeps.1, fun answer => induction answer (keeps.2 _)⟩

theorem Keeps.and {guard' : List (Turn Question Answer) → Question → Prop}
    {post' : List (Turn Question Answer) → Result → Prop} (keeps : Keeps guard post past prog)
    (also : Keeps guard' post' past prog) :
    Keeps (fun past question => guard past question ∧ guard' past question)
      (fun past res => post past res ∧ post' past res) past prog := by
  induction prog generalizing past with
  | done res => exact ⟨keeps, also⟩
  | ask question next induction =>
    exact ⟨⟨keeps.1, also.1⟩, fun answer => induction answer (keeps.2 _) (also.2 _)⟩

theorem keeps_true {prog : Dialogue Question Answer Result} :
    Keeps (fun _ _ => True) (fun _ _ => True) past prog := by
  induction prog generalizing past with
  | done res => exact trivial
  | ask question next induction => exact ⟨trivial, fun answer => induction answer⟩

/-- What each part of a lower level preserves, the whole preserves. -/
theorem keeps_expand {Question' : Type} {Answer' : Question' → Type}
    {implement : (question : Question) → Dialogue Question' Answer' (Answer question)}
    {guard : List (Turn Question' Answer') → Question' → Prop}
    {invariant : List (Turn Question' Answer') → Prop}
    (parts : ∀ question past, invariant past →
      Keeps guard (fun past _ => invariant past) past (implement question))
    {prog : Dialogue Question Answer Result}
    {past : List (Turn Question' Answer')} (initial : invariant past) :
    Keeps guard (fun past _ => invariant past) past (prog.expand implement) := by
  induction prog generalizing past with
  | done res => exact initial
  | ask question next induction =>
    apply (parts _ _ initial).bind
    intro past answer holds
    exact induction answer holds

/-- Every turn of the past was justified when its question was put. -/
inductive Justified (guard : List (Turn Question Answer) → Question → Prop) :
    List (Turn Question Answer) → Prop
  | nil : Justified guard []
  | snoc {past : List (Turn Question Answer)}
      {question : Question} (earlier : Justified guard past) (asked : guard past question)
      (answer : Answer question) : Justified guard (past ++ [⟨question, answer⟩])

/-- By the turns of its past, a program has come to what is left of it. -/
inductive Reached (prog : Dialogue Question Answer Result) :
    List (Turn Question Answer) → Dialogue Question Answer Result → Prop
  | start : Reached prog [] prog
  | turn {past : List (Turn Question Answer)} {question : Question}
      {next : Answer question → Dialogue Question Answer Result}
      (earlier : Reached prog past (.ask question next)) (answer : Answer question) :
      Reached prog (past ++ [⟨question, answer⟩]) (next answer)

variable {prog rest : Dialogue Question Answer Result}

/-- What is left of a program keeps the contract of the program. -/
theorem Reached.keeps (reached : Reached prog past rest)
    (keeps : Keeps guard post [] prog) : Keeps guard post past rest := by
  induction reached with
  | start => exact keeps
  | turn earlier answer induction => exact induction.next _

/-- Every turn that a program has taken was justified by its contract. -/
theorem Reached.justified (reached : Reached prog past rest)
    (keeps : Keeps guard post [] prog) : Justified guard past := by
  induction reached with
  | start => exact .nil
  | turn earlier answer induction => exact induction.snoc (earlier.keeps keeps).1 _

end

end Dialogue

end Dialogues
