import SlsDetModel.Concurrency.Client

/-!
# Histories: the results of a run as those of atomic steps

What clients know of a run is its **history**, the operations with their results in the order in
which they ended. A sequential specification says what an operation, carried out in one step, may
return in which state, and what state it leaves; `History` is the set of histories it admits.

* `History.tracks` — what a client keeps track of by looking at one result after the other is right
  at the end, if it is right after every step.
* `History.executes` — a specification that can be executed computes the answers of a history.
* `Client.taken_run` — every operation that was started has been answered once, in order, but
  for the one under way.
* `Client.atomic` — **atomicity**. If every program behaves as the sequential specification says of
  the part `f` of the state, and the environment leaves that part of an idle client alone, then the
  history of every run is one that the specification admits, however the programs' requests and the
  environment's moves are interleaved.
-/

/-- The histories of a sequential specification: `Step t x a y` when the operation `t` may take the
state `x` to `y` and return `a`. -/
inductive History {τ α β : Type} (Step : τ → β → α → β → Prop) (x : β) : List (τ × α) → β → Prop
  | nil : History Step x [] x
  | snoc {h y t a z} (past : History Step x h y) (step : Step t y a z) :
    History Step x (h ++ [(t, a)]) z

namespace History

variable {τ α β γ : Type} {Step : τ → β → α → β → Prop} {x y : β} {h : List (τ × α)}

/-- Where `R` relates what is known to the state, and one result takes the knowledge further as the
step takes the state, the knowledge at the end is right. What is known is a function `K` of the
history, given by what one more result adds to it. -/
theorem tracks {R : γ → β → Prop} {K : List (τ × α) → γ} (N : γ → τ → α → γ)
    (hnext : ∀ h t a, K (h ++ [(t, a)]) = N (K h) t a) (hnil : R (K []) x)
    (hstep : ∀ {g t y a z}, R g y → Step t y a z → R (N g t a) z) (hh : History Step x h y) :
    R (K h) y := by
  induction hh with
  | nil => exact hnil
  | snoc _ step ih =>
    rw [hnext]
    exact hstep ih step

/-- What every step keeps may be assumed of the steps of a history. -/
theorem mono {P : β → Prop} {Step' : τ → β → α → β → Prop} (hx : P x)
    (hstep : ∀ {t y a z}, P y → Step t y a z → P z ∧ Step' t y a z) (hh : History Step x h y) :
    P y ∧ History Step' x h y := by
  induction hh with
  | nil => exact ⟨hx, .nil⟩
  | snoc _ step ih =>
    obtain ⟨hP, hpast⟩ := ih
    obtain ⟨hP', hstep'⟩ := hstep hP step
    exact ⟨hP', .snoc hpast hstep'⟩

/-! ### Executable specifications -/

/-- An object that carries out one operation after the other, as `exec` says, and notes the
answers. -/
def serially (exec : τ → γ → Option (α × γ)) : LabelledMachine (List α × γ) τ where
  step s t := (exec t s.2).map fun q ↦ (s.1 ++ [q.1], q.2)

/-- Where `e` does, as seen through `f`, what every step does, the answers of a history are those
that `e` computes for its operations. -/
theorem executes {P : β → Prop} {f : β → γ} {e : τ → γ → Option (α × γ)} (hx : P x)
    (hstep : ∀ {t y a z}, P y → Step t y a z → P z ∧ e t (f y) = some (a, f z))
    (hh : History Step x h y) :
    P y ∧ (serially e).run ([], f x) (h.map Prod.fst) = some (h.map Prod.snd, f y) := by
  induction hh with
  | nil => exact ⟨hx, rfl⟩
  | @snoc h y t a z past step ih =>
    obtain ⟨hy, hrun⟩ := ih
    obtain ⟨hz, hexec⟩ := hstep hy step
    have hlast : (serially e).step (h.map Prod.snd, f y) t =
        some (h.map Prod.snd ++ [a], f z) := by
      show (e t (f y)).map _ = _
      rw [hexec]
      rfl
    rw [List.map_append, List.map_append]
    exact ⟨hz, (serially e).run_append_eq_some.2
      ⟨_, hrun, (serially e).run_cons_eq_some.2 ⟨_, hlast, rfl⟩⟩⟩

end History

namespace Client

variable {σ ε ι τ α κ β : Type} {ρ : ι → Type} [DecidableEq κ] {S : Server σ ε ρ}
  {prog : τ → Proc σ ρ α} {kind : ι → κ} {L : ε → Prop} {G : ι → σ → Prop}
  {R : (i : ι) → σ → ρ i → σ → Prop} {During : ι → σ → σ → Prop} {Wrecked : σ → Prop}
  {I : σ → Prop} {f : σ → β} {Step : τ → β → α → β → Prop} {c c' : Client σ ρ τ α}

/-! ### Every operation is answered once -/

/-- The operation under way. -/
def current (c : Client σ ρ τ α) : Option τ :=
  match c.thread with
  | .idle => none
  | .waiting t _ _ => some t
  | .crashed t => some t

/-- The operations answered so far, and the one under way. -/
def taken (c : Client σ ρ τ α) : List τ := c.results.map Prod.fst ++ c.current.toList

/-- Going on with an operation, it has been taken up. -/
theorem taken_proceed (t : τ) (results : List (τ × α)) (x : Resumption σ ρ α) :
    (proceed S t results x).taken = results.map Prod.fst ++ [t] := by
  cases x with
  | done a s => simp [proceed, taken, current]
  | ask i s k =>
    rw [proceed]
    split <;> rfl

/-- **Operations are taken up in the order in which they are started**, each of them once. -/
theorem taken_run {ls : List (ClientLabel τ κ ε)} (hrun : (machine S prog kind).run c ls = some c') :
    c'.taken = c.taken ++ calls ls := by
  induction ls generalizing c with
  | nil =>
    obtain rfl := Option.some.inj hrun
    exact (List.append_nil _).symm
  | cons l ls ih =>
    obtain ⟨u, hu, hrest⟩ := (machine S prog kind).run_cons_eq_some.1 hrun
    rw [ih hrest]
    cases l with
    | call t =>
      obtain ⟨hth, rfl⟩ := step_call_eq_some_iff.1 hu
      rw [taken_proceed, taken, current, hth]
      simp [calls]
    | resume q =>
      obtain ⟨t, i, k, r, s, hth, -, -, rfl⟩ := step_resume_eq_some_iff.1 hu
      rw [taken_proceed, taken, current, hth]
      rfl
    | env e =>
      obtain ⟨s, -, rfl⟩ := step_env_eq_some_iff.1 hu
      rfl

/-! ### Atomicity -/

/-- The results since `old` are a history from `x₀` on. It has led to `x`, which is what an idle
client shows, and where the operation under way will go on from. -/
def Recorded (G : ι → σ → Prop) (R : (i : ι) → σ → ρ i → σ → Prop) (During : ι → σ → σ → Prop)
    (Wrecked : σ → Prop) (I : σ → Prop) (f : σ → β) (Step : τ → β → α → β → Prop) (x₀ : β)
    (old : List (τ × α)) (c : Client σ ρ τ α) : Prop :=
  ∃ new x, c.results = old ++ new ∧ History Step x₀ new x ∧
    c.Holds G R During Wrecked (fun s ↦ I s ∧ f s = x) fun t a s ↦ I s ∧ Step t x a (f s)

theorem Recorded.proceed (hS : Contract S L G R During Wrecked) {x₀ x : β} {old new : List (τ × α)}
    {t : τ} {p : Resumption σ ρ α} (hres : c.results = old ++ new) (hh : History Step x₀ new x)
    (hp : p.Sat G R fun a s ↦ I s ∧ Step t x a (f s)) :
    Recorded G R During Wrecked I f Step x₀ old (proceed S t c.results p) := by
  rcases proceed_of_sat hS (I := fun s ↦ I s ∧ f s = x) (Q := fun t a s ↦ I s ∧ Step t x a (f s))
    hp c.results with ⟨a, s, heq, hI, hstep⟩ | ⟨⟨s, th, heq, -⟩, hholds⟩
  · rw [heq]
    refine ⟨new ++ [(t, a)], f s, ?_, hh.snoc hstep, hI, rfl⟩
    rw [hres, List.append_assoc]
  · refine ⟨new, x, ?_, hh, hholds⟩
    rw [heq]
    exact hres

/-- **Programs with requests are atomic.** -/
theorem atomic (hS : Contract S L G R During Wrecked) {C : τ → σ → Prop}
    (hprog : ∀ {t s}, I s → C t s → (prog t s).Sat G R fun a s' ↦ I s' ∧ Step t (f s) a (f s'))
    (henv : ∀ {e s s'}, I s → L e → S.env e s = some s' → I s' ∧ f s' = f s)
    {ls : List (ClientLabel τ κ ε)} (hidle : c.thread = .idle) (hI : I c.shared)
    (hls : (machine S prog kind).Along (Permits C L) c ls)
    (hrun : (machine S prog kind).run c ls = some c') :
    ∃ new x, c'.results = c.results ++ new ∧ History Step (f c.shared) new x ∧
      (c'.thread = .idle → I c'.shared ∧ f c'.shared = x) := by
  have hstart : Recorded G R During Wrecked I f Step (f c.shared) c.results c := by
    refine ⟨[], f c.shared, (List.append_nil _).symm, .nil, ?_⟩
    rw [Holds, hidle]
    exact ⟨hI, rfl⟩
  have hend : Recorded G R During Wrecked I f Step (f c.shared) c.results c' := by
    refine LabelledMachine.run_invariant_along
      (P := Recorded G R During Wrecked I f Step (f c.shared) c.results) ?_ hstart hls hrun
    rintro u l v ⟨new, x, hres, hh, hholds⟩ hl hstep
    cases l with
    | call t =>
      obtain ⟨hth, rfl⟩ := step_call_eq_some_iff.1 hstep
      rw [Holds, hth] at hholds
      obtain ⟨hIu, rfl⟩ := hholds
      exact .proceed hS hres hh (hprog hIu hl)
    | resume q =>
      obtain ⟨t, i, k, r, s, hth, -, hleave, rfl⟩ := step_resume_eq_some_iff.1 hstep
      rw [Holds, hth] at hholds
      obtain ⟨s₀, -, hd, hk⟩ := hholds
      exact .proceed hS hres hh (hk r s (hS.leave hd hleave))
    | env e =>
      obtain ⟨s, hs, rfl⟩ := step_env_eq_some_iff.1 hstep
      refine ⟨new, x, hres, hh, ?_⟩
      unfold Holds at hholds ⊢
      split at hholds
      · rename_i hth
        rw [hth]
        obtain ⟨hIs, hf⟩ := henv hholds.1 hl hs
        exact ⟨hIs, hf.trans hholds.2⟩
      · rename_i hth
        rw [hth]
        obtain ⟨s₀, hG, hd, hk⟩ := hholds
        exact ⟨s₀, hG, hS.env hd hl hs, hk⟩
      · rename_i hth
        rw [hth]
        exact hS.adrift hholds hl hs
  obtain ⟨new, x, hres, hh, hholds⟩ := hend
  refine ⟨new, x, hres, hh, fun hidle' ↦ ?_⟩
  rwa [Holds, hidle'] at hholds

end Client
