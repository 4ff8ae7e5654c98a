import InstrumentControl.Link

/-! Conversations over arbitrary links.  A rule says which exchanges may follow one another; a
conversation keeps to it if it does so whatever the replies are and however they change, and then
every log of it over a link is in order. -/

namespace InstrumentControl.Conversation

variable {α β σ : Type}

@[simp] theorem run_done (link : Link σ) (a : α) (s : σ) :
    run link (Program.done a) s = (a, s) := rfl

@[simp] theorem run_step (link : Link σ) (c : Call) (next : c.Reply → Conversation α) (s : σ) :
    run link (Program.step c next) s = run link (next (link c s).1) (link c s).2 := rfl

@[simp] theorem exchanges_done (link : Link σ) (a : α) (s : σ) :
    exchanges link (Program.done a) s = [] := rfl

@[simp] theorem exchanges_step (link : Link σ) (c : Call) (next : c.Reply → Conversation α)
    (s : σ) :
    exchanges link (Program.step c next) s =
      ⟨c, (link c s).1⟩ :: exchanges link (next (link c s).1) (link c s).2 := rfl

theorem run_bind (link : Link σ) (p : Conversation α) (f : α → Conversation β) (s : σ) :
    run link (p.bind f) s = run link (f (run link p s).1) (run link p s).2 := by
  induction p generalizing s with
  | done a => rfl
  | step c next ih => exact ih _ _

/-- What follows a conversation makes its calls after it, on the link as the conversation left
it. -/
theorem exchanges_bind (link : Link σ) (p : Conversation α) (f : α → Conversation β) (s : σ) :
    exchanges link (p.bind f) s =
      exchanges link p s ++ exchanges link (f (run link p s).1) (run link p s).2 := by
  induction p generalizing s with
  | done a => rfl
  | step c next ih => exact congrArg _ (ih _ _)

/-- What is made of the result makes no further calls. -/
theorem exchanges_bind_done (link : Link σ) (p : Conversation α) (f : α → β) (s : σ) :
    exchanges link (p.bind fun a => .done (f a)) s = exchanges link p s := by
  rw [exchanges_bind, exchanges_done, List.append_nil]

/-- The first `n` calls of a conversation. -/
def take : (n : Nat) → Conversation α → Conversation Unit
  | 0, _ => .done ()
  | _ + 1, .done _ => .done ()
  | n + 1, .step c next => .step c fun reply => take n (next reply)

section

variable {τ : Type} {link : Link σ} {ideal : Link τ} {allowed : Call → τ → Prop}

/-- Every call of the conversation is made in a state in which it is allowed. -/
def Meets (ideal : Link τ) (allowed : Call → τ → Prop) : Conversation α → τ → Prop
  | .done _, _ => True
  | .step c next, t => allowed c t ∧ Meets ideal allowed (next (ideal c t).1) (ideal c t).2

theorem Meets.take {p : Conversation α} {t : τ} (h : Meets ideal allowed p t) (n : Nat) :
    Meets ideal allowed (p.take n) t := by
  induction n generalizing p t with
  | zero => trivial
  | succ n ih =>
    cases p with
    | done a => trivial
    | step c next => exact ⟨h.1, ih h.2⟩

/-- A link that does on allowed calls what an ideal one does has the same exchanges. -/
theorem Meets.simulates {related : σ → τ → Prop}
    (hstep : ∀ c s t, related s t → allowed c t →
      (link c s).1 = (ideal c t).1 ∧ related (link c s).2 (ideal c t).2)
    {p : Conversation α} {s : σ} {t : τ} (h : Meets ideal allowed p t) (hrelated : related s t) :
    p.exchanges link s = p.exchanges ideal t ∧ related (p.run link s).2 (p.run ideal t).2 := by
  induction p generalizing s t with
  | done a => exact ⟨rfl, hrelated⟩
  | step c next ih =>
    obtain ⟨hreply, hnext⟩ := hstep c s t hrelated h.1
    have hrest := ih (ideal c t).1 h.2 hnext
    rw [exchanges_step, exchanges_step, run_step, run_step, hreply]
    exact ⟨congrArg _ hrest.1, hrest.2⟩

end

/-- Links that do the same in all states with a property that calls keep give the same runs. -/
theorem run_eq_of_agree (link link' : Link σ) (property : σ → Prop)
    (hstep : ∀ c s, property s → link c s = link' c s ∧ property (link' c s).2)
    (p : Conversation α) {s : σ} (hs : property s) :
    p.run link s = p.run link' s ∧ p.exchanges link s = p.exchanges link' s ∧
      property (p.run link' s).2 := by
  induction p generalizing s with
  | done a => exact ⟨rfl, rfl, hs⟩
  | step c next ih =>
    obtain ⟨hcall, hnext⟩ := hstep c s hs
    obtain ⟨hrun, hexchanges, hlast⟩ := ih (link' c s).1 hnext
    rw [run_step, run_step, exchanges_step, exchanges_step, hcall]
    exact ⟨hrun, congrArg _ hexchanges, hlast⟩

/-- Which exchanges may follow the exchange before them, if there is one. -/
abbrev Rule : Type := Option Exchange → Exchange → Prop

/-- After the exchange `last`, the conversation keeps to the rule whatever the replies are. -/
def Follows (rule : Rule) : (last : Option Exchange) → Conversation α → Prop
  | _, .done _ => True
  | last, .step c next =>
    ∀ reply, rule last ⟨c, reply⟩ ∧ Follows rule (some ⟨c, reply⟩) (next reply)

/-- The conversation keeps to the rule at any point of a longer one. -/
def Keeps (rule : Rule) (p : Conversation α) : Prop := ∀ last, Follows rule last p

variable {rule : Rule}

theorem Follows.bind {last : Option Exchange} {p : Conversation α} {f : α → Conversation β}
    (hp : Follows rule last p) (hf : ∀ a, Keeps rule (f a)) : Follows rule last (p.bind f) := by
  induction p generalizing last with
  | done a => exact hf a last
  | step c next ih => exact fun reply => ⟨(hp reply).1, ih reply (hp reply).2⟩

theorem Keeps.done (a : α) : Keeps rule (.done a) := fun _ => trivial

theorem Keeps.bind {p : Conversation α} {f : α → Conversation β} (hp : Keeps rule p)
    (hf : ∀ a, Keeps rule (f a)) : Keeps rule (p.bind f) := fun last => (hp last).bind hf

theorem Keeps.step {c : Call} {next : c.Reply → Conversation α}
    (h : ∀ last reply, rule last ⟨c, reply⟩) (hnext : ∀ reply, Keeps rule (next reply)) :
    Keeps rule (.step c next) := fun last reply => ⟨h last reply, hnext reply _⟩

/-- A single call that the rule allows anywhere. -/
theorem Keeps.call {c : Call} {f : c.Reply → α} (h : ∀ last reply, rule last ⟨c, reply⟩) :
    Keeps rule (.step c fun reply => .done (f reply)) := .step h fun _ => .done _

/-- In the log of a conversation that keeps to the rule, every exchange is allowed after the one
before it. -/
theorem Follows.exchanges {last : Option Exchange} {p : Conversation α} (h : Follows rule last p)
    {link : Link σ} {s : σ} {before after : List Exchange} {e : Exchange}
    (hlog : p.exchanges link s = before ++ e :: after) : rule (before.getLast?.or last) e := by
  induction p generalizing last s before with
  | done a => cases before <;> cases hlog
  | step c next ih =>
    obtain ⟨hfirst, hrest⟩ := h (link c s).1
    cases before with
    | nil =>
      cases hlog
      exact hfirst
    | cons first before =>
      rw [exchanges_step, List.cons_append, List.cons.injEq] at hlog
      obtain ⟨rfl, hlog⟩ := hlog
      have hallowed := ih _ hrest hlog
      -- the first call is the exchange before `e` if there is none between them
      cases before with
      | nil => exact hallowed
      | cons second before =>
        rw [List.getLast?_cons_cons]
        rwa [List.getLast?_eq_some_getLast (List.cons_ne_nil _ _)] at hallowed ⊢

end InstrumentControl.Conversation
