import RowGuard.Proofs.Task.Frame

/-!
# What a program may answer

The shape of an answer is that of its program, and each value in it is an outcome of the act that
stands in its place (`Step.MayAnswer`). Which outcome may depend on what others did to the state
between the acts.

What a step under way may still answer is told against a list of steps, one for each task that was
started (`Running.Underway`). The list grows when a task is started, and nothing that was true of a
step under way becomes false then (`Running.Underway.mono`). Every turn keeps to it
(`Machine.Accounted.turn`), so the main task answers as its program may.
-/

set_option autoImplicit false

namespace RowGuard

variable {σ β : Type}

/-- **The outcomes of a procedure**, whatever happens to the state between its acts and whatever
contexts it finds. -/
def Procedure.MayEnd : Procedure σ β → β → Prop
  | done b, outcome => outcome = b
  | act _ _ next, outcome => ∃ s, MayEnd (next s) outcome
  | look next, outcome => ∃ context, MayEnd (next context) outcome

namespace Step

mutual

/-- **The answers of a step**, one outcome for each act in it. -/
def MayAnswer : Step σ β → Answer β → Prop
  | act procedure, .one b => procedure.MayEnd b
  | pause, .none => True
  | seq steps, .many answers => MayAnswerAll steps answers
  | install _ body, answer => MayAnswer body answer
  | spawn _ body, answer => MayAnswer body answer
  | detach _ _, .none => True
  | join branches, .many answers => MayAnswerAll branches answers
  | _, _ => False

/-- The answers of several steps, one for each. -/
def MayAnswerAll : List (Step σ β) → List (Answer β) → Prop
  | [], [] => True
  | step :: steps, answer :: answers => MayAnswer step answer ∧ MayAnswerAll steps answers
  | _, _ => False

end

/-- Steps in order may give the answers of the first ones and that of the last. -/
theorem mayAnswerAll_append_one {steps : List (Step σ β)} {answers : List (Answer β)}
    (h : MayAnswerAll steps answers) {step : Step σ β} {answer : Answer β}
    (hlast : step.MayAnswer answer) : MayAnswerAll (steps ++ [step]) (answers ++ [answer]) := by
  induction steps generalizing answers with
  | nil =>
    cases answers with
    | nil => exact ⟨hlast, trivial⟩
    | cons a as => exact h.elim
  | cons s rest ih =>
    cases answers with
    | nil => exact h.elim
    | cons a as => exact ⟨h.1, ih h.2⟩

end Step

namespace Running

mutual

/-- **A step under way**, told against the steps of the tasks that were started. -/
def Underway (tasks : List (Step σ β)) : Running σ β → Step σ β → Prop
  | done a, step => step.MayAnswer a
  | ready begun, step => begun = step
  | acting _ rest, step => ∀ b, rest.MayEnd b → step.MayAnswer (.one b)
  | paused, step => step.MayAnswer .none
  | seq answered current rest, step => ∃ before next, step = .seq (before ++ next :: rest) ∧
      Step.MayAnswerAll before answered ∧ Underway tasks current next
  | install _ body, step => ∃ context inner, step = .install context inner ∧
      Underway tasks body inner
  | awaiting task, step => ∃ started, tasks[task]? = some started ∧
      ∀ a, started.MayAnswer a → step.MayAnswer a
  | join branches, step => ∃ steps, step = .join steps ∧ UnderwayAll tasks branches steps
  | crowd _ branches, step => ∃ steps, step = .join steps ∧ UnderwayAll tasks branches steps

/-- Several steps under way, one for each. -/
def UnderwayAll (tasks : List (Step σ β)) : List (Running σ β) → List (Step σ β) → Prop
  | [], [] => True
  | r :: rs, step :: steps => Underway tasks r step ∧ UnderwayAll tasks rs steps
  | _, _ => False

end

theorem getElem?_of_more {α : Type} {xs ys : List α} (h : xs <+: ys) {i : Nat} {x : α}
    (hx : xs[i]? = some x) : ys[i]? = some x := by
  obtain ⟨rest, rfl⟩ := h
  rw [List.getElem?_append_left (List.getElem?_eq_some_iff.1 hx).1, hx]

variable {tasks tasks' : List (Step σ β)}

mutual

/-- **More tasks** leave true what was known of a step under way. -/
theorem Underway.mono (hmore : tasks <+: tasks') : ∀ {r : Running σ β} {step : Step σ β},
    Underway tasks r step → Underway tasks' r step
  | done _, _, h => h
  | ready _, _, h => h
  | acting _ _, _, h => h
  | paused, _, h => h
  | seq _ _ _, _, ⟨before, next, hstep, hanswered, h⟩ =>
    ⟨before, next, hstep, hanswered, Underway.mono hmore h⟩
  | install _ _, _, ⟨context, inner, hstep, h⟩ =>
    ⟨context, inner, hstep, Underway.mono hmore h⟩
  | awaiting _, _, ⟨started, htask, h⟩ => ⟨started, getElem?_of_more hmore htask, h⟩
  | join _, _, ⟨steps, hstep, h⟩ => ⟨steps, hstep, UnderwayAll.mono hmore h⟩
  | crowd _ _, _, ⟨steps, hstep, h⟩ => ⟨steps, hstep, UnderwayAll.mono hmore h⟩

/-- What branches wait for is still there when more tasks have been started. -/
theorem UnderwayAll.mono (hmore : tasks <+: tasks') : ∀ {rs : List (Running σ β)}
    {steps : List (Step σ β)}, UnderwayAll tasks rs steps → UnderwayAll tasks' rs steps
  | [], [], h => h
  | _ :: _, _ :: _, ⟨h, hrest⟩ => ⟨Underway.mono hmore h, UnderwayAll.mono hmore hrest⟩

end

/-- Branches that had no turn yet are under way. -/
theorem underwayAll_ready (steps : List (Step σ β)) :
    UnderwayAll tasks (steps.map ready) steps := by
  induction steps with
  | nil => trivial
  | cons step rest ih => exact ⟨rfl, ih⟩

theorem UnderwayAll.getElem? {rs : List (Running σ β)} {steps : List (Step σ β)}
    (h : UnderwayAll tasks rs steps) {place : Nat} {r : Running σ β} (hr : rs[place]? = some r) :
    ∃ step, steps[place]? = some step ∧ r.Underway tasks step := by
  induction rs generalizing steps place with
  | nil => cases hr
  | cons r₀ rest ih =>
    cases steps with
    | nil => exact h.elim
    | cons step₀ steps =>
      cases place with
      | zero =>
        cases hr
        exact ⟨step₀, rfl, h.1⟩
      | succ place => exact ih h.2 hr

/-- A branch may be put back if it is still under way with its step. -/
theorem UnderwayAll.set {rs : List (Running σ β)} {steps : List (Step σ β)}
    (h : UnderwayAll tasks rs steps) {place : Nat} {r : Running σ β} {step : Step σ β}
    (hstep : steps[place]? = some step) (hr : r.Underway tasks step) :
    UnderwayAll tasks (rs.set place r) steps := by
  induction rs generalizing steps place with
  | nil => exact h
  | cons r₀ rest ih =>
    cases steps with
    | nil => exact h.elim
    | cons step₀ steps =>
      cases place with
      | zero =>
        cases hstep
        exact ⟨hr, h.2⟩
      | succ place => exact ⟨h.1, ih h.2 hstep⟩

/-- Steps that are all done have answered. -/
theorem UnderwayAll.answers {rs : List (Running σ β)} {steps : List (Step σ β)}
    (h : UnderwayAll tasks rs steps) {answers : List (Answer β)}
    (hdone : rs.mapM answer? = some answers) : Step.MayAnswerAll steps answers := by
  induction rs generalizing steps answers with
  | nil =>
    cases hdone
    cases steps with
    | nil => trivial
    | cons step rest => exact h.elim
  | cons r rest ih =>
    cases steps with
    | nil => exact h.elim
    | cons step steps =>
      rw [List.mapM_cons] at hdone
      obtain ⟨a, ha, hdone⟩ := Option.bind_eq_some_iff.1 hdone
      obtain ⟨as, has, hdone⟩ := Option.bind_eq_some_iff.1 hdone
      cases hdone
      cases r with
      | done a₀ =>
        cases ha
        exact ⟨h.1, ih h.2 has⟩
      | _ => cases ha

/-- A join is under way while branches wait, and done with their answers after that. -/
theorem UnderwayAll.joined {waiting : List (Running σ β) → Running σ β}
    {rs : List (Running σ β)} {steps : List (Step σ β)} (h : UnderwayAll tasks rs steps)
    (hwaiting : (waiting rs).Underway tasks (.join steps)) :
    (Running.joined waiting rs).Underway tasks (.join steps) := by
  unfold Running.joined
  cases hdone : rs.mapM answer? with
  | none => exact hwaiting
  | some answers => exact h.answers hdone

/-- A step in a context of its own, after it stopped. -/
theorem Underway.within {context inner : RequestContext} {r : Running σ β} {body : Step σ β}
    (h : r.Underway tasks body) : (r.within context).Underway tasks (.install inner body) := by
  cases r with
  | done a => exact h
  | _ => exact ⟨inner, body, rfl, h⟩

end Running

/-! ## Machines -/

/-- **A machine accounted for** by the steps of its tasks. -/
structure Machine.Accounted (tasks : List (Step σ β)) (m : Machine σ β) : Prop where
  length : m.tasks.length = tasks.length
  underway : ∀ {i : Nat} {t : Task σ β}, m.tasks[i]? = some t →
    ∃ step, tasks[i]? = some step ∧ t.progress.Underway tasks step

/-- **What becomes of a step** that was run: it is still under way or has answered, and the machine
is accounted for, with more tasks perhaps. -/
def Step.ComesTo (tasks : List (Step σ β)) (step : Step σ β)
    (ran : Running σ β × Machine σ β) : Prop :=
  ∃ tasks', tasks <+: tasks' ∧ ran.2.Accounted tasks' ∧ ran.1.Underway tasks' step

/-- `ComesTo`, of several steps. -/
def Step.AllComeTo (tasks steps : List (Step σ β)) (ran : List (Running σ β) × Machine σ β) :
    Prop :=
  ∃ tasks', tasks <+: tasks' ∧ ran.2.Accounted tasks' ∧ Running.UnderwayAll tasks' ran.1 steps

namespace Machine

variable {tasks : List (Step σ β)} {m : Machine σ β}

/-- Tasks are accounted for whatever else changes. -/
theorem Accounted.of_tasks (h : m.Accounted tasks) {m' : Machine σ β} (heq : m'.tasks = m.tasks) :
    m'.Accounted tasks := by
  refine ⟨by rw [heq, h.length], fun {i t} ht => ?_⟩
  rw [heq] at ht
  exact h.underway ht

/-- Another state of a task is accounted for if it is a state of the same step. -/
theorem Accounted.set (h : m.Accounted tasks) {task : Nat} {step : Step σ β} {t : Task σ β}
    (hstep : tasks[task]? = some step) (ht : t.progress.Underway tasks step) {m' : Machine σ β}
    (hm' : m'.tasks = m.tasks.set task t) : m'.Accounted tasks := by
  refine ⟨by rw [hm', List.length_set, h.length], fun {i t'} ht' => ?_⟩
  rw [hm', List.getElem?_set] at ht'
  split at ht'
  · rename_i hi
    subst hi
    split at ht'
    · cases ht'
      exact ⟨step, hstep, ht⟩
    · cases ht'
  · exact h.underway ht'

/-- A task that is started is accounted for by its step. -/
theorem Accounted.addTask (h : m.Accounted tasks) {r : Running σ β} {step : Step σ β}
    (hr : r.Underway (tasks ++ [step]) step) : (m.addTask r).Accounted (tasks ++ [step]) := by
  have hmore : tasks <+: tasks ++ [step] := List.prefix_append tasks [step]
  refine ⟨?_, fun {i t} ht => ?_⟩
  · unfold Machine.addTask
    rw [List.length_append, List.length_append, h.length]
    rfl
  · unfold Machine.addTask at ht
    dsimp only at ht
    by_cases hi : i < m.tasks.length
    · rw [List.getElem?_append_left hi] at ht
      obtain ⟨step', hstep, hunderway⟩ := h.underway ht
      exact ⟨step', Running.getElem?_of_more hmore hstep, hunderway.mono hmore⟩
    · rw [List.getElem?_append_right (Nat.not_lt.1 hi)] at ht
      have hlast : i - m.tasks.length = 0 := by
        have hsome := (List.getElem?_eq_some_iff.1 ht).1
        rw [List.length_singleton] at hsome
        omega
      rw [hlast] at ht
      cases ht
      refine ⟨step, ?_, hr⟩
      have hi' : i = tasks.length := by have := h.length; omega
      rw [hi', List.getElem?_concat_length]

theorem perform_underway (callee : Callee) {step : Step σ β} (p : Procedure σ β)
    (pending : Option Nat) (m : Machine σ β) (hp : ∀ b, p.MayEnd b → step.MayAnswer (.one b)) :
    (m.perform callee pending p).1.Underway tasks step := by
  induction p generalizing pending m with
  | done b => exact hp b rfl
  | act hold change next ih =>
    by_cases hhold : hold = .free
    · subst hhold
      exact ih m.world none _ fun b hb => hp b ⟨_, hb⟩
    · rw [m.perform_held callee pending hhold]
      dsimp only
      split
      · exact hp
      · split
        · exact hp
        · exact ih _ none _ fun b hb => hp b ⟨_, hb⟩
  | look next ih => exact ih m.current pending m fun b hb => hp b ⟨_, hb⟩

/-- Waiting for a task comes to its answer, or to waiting. -/
theorem await_comesTo (h : m.Accounted tasks) (callee : Callee) {task : Nat} {step : Step σ β}
    (htask : (Running.awaiting task).Underway tasks step) :
    step.ComesTo tasks (m.await callee task) := by
  unfold await
  split
  · exact ⟨tasks, List.prefix_refl tasks, h.of_tasks (m.keeps_postpone callee).tasks, htask⟩
  · cases hstored : m.tasks[task]? with
    | none => exact ⟨tasks, List.prefix_refl tasks, h, htask⟩
    | some t =>
      dsimp only
      obtain ⟨started, hstarted, hunderway⟩ := h.underway hstored
      split
      · rename_i a hdone
        obtain ⟨started', hstarted', hanswer⟩ := htask
        rw [hstarted, Option.some.injEq] at hstarted'
        subst hstarted'
        rw [hdone] at hunderway
        exact ⟨tasks, List.prefix_refl tasks, h.of_tasks rfl, hanswer a hunderway⟩
      -- only the task's waiter is another one
      · have hwaiting : Task.progress { t with waiter := some callee } = t.progress := rfl
        exact ⟨tasks, List.prefix_refl tasks, h.set hstarted (hwaiting ▸ hunderway) rfl, htask⟩

end Machine

namespace Step.ComesTo

variable {tasks tasks' : List (Step σ β)} {step : Step σ β} {ran : Running σ β × Machine σ β}

theorem stay (hm : ran.2.Accounted tasks) (hr : ran.1.Underway tasks step) :
    step.ComesTo tasks ran := ⟨tasks, List.prefix_refl tasks, hm, hr⟩

/-- What comes of a step after more tasks were started comes of it. -/
theorem of_more (hmore : tasks <+: tasks') (h : step.ComesTo tasks' ran) :
    step.ComesTo tasks ran := by
  obtain ⟨tasks'', hmore', hm, hr⟩ := h
  exact ⟨tasks'', hmore.trans hmore', hm, hr⟩

end Step.ComesTo

/-- **What keeps account**: whatever it runs comes to what it was under way to. -/
def KeepsAccount (run : Running σ β → Machine σ β → Running σ β × Machine σ β) : Prop :=
  ∀ {tasks : List (Step σ β)} {r : Running σ β} {step : Step σ β} {m : Machine σ β},
    m.Accounted tasks → r.Underway tasks step → step.ComesTo tasks (run r m)

namespace Machine

theorem inContext_comesTo {tasks : List (Step σ β)} {m : Machine σ β}
    {context inner : RequestContext} {body : Step σ β}
    {run : Machine σ β → Running σ β × Machine σ β}
    (hrun : body.ComesTo tasks (run { m with current := some context })) :
    (Step.install inner body).ComesTo tasks (m.inContext context run) := by
  obtain ⟨tasks', hmore, hm', hr⟩ := hrun
  exact ⟨tasks', hmore, hm'.of_tasks rfl, hr.within⟩

/-- Branches of a crowd that were called keep account, as long as each of them does. -/
theorem runCrowd_comesTo {run : Callee → Running σ β → Machine σ β → Running σ β × Machine σ β}
    (hrun : ∀ callee, KeepsAccount (run callee)) (callee : Callee) (number fuel : Nat) :
    ∀ {tasks steps : List (Step σ β)} (stopped eager : Nat) (branches : List (Running σ β))
      (m : Machine σ β), m.Accounted tasks → Running.UnderwayAll tasks branches steps →
      Step.AllComeTo tasks steps (runCrowd callee number run fuel stopped eager branches m) := by
  induction fuel with
  | zero => exact fun _ _ _ _ hm hbranches => ⟨_, List.prefix_refl _, hm, hbranches⟩
  | succ fuel ih =>
    intro tasks steps stopped eager branches m hm hbranches
    unfold runCrowd
    cases hcalled : m.nextCalled number with
    | none => exact ⟨tasks, List.prefix_refl tasks, hm, hbranches⟩
    | some called =>
      obtain ⟨place, m₁⟩ := called
      have hm₁ : m₁.Accounted tasks := hm.of_tasks (m.keeps_nextCalled hcalled).tasks
      dsimp only
      cases hbranch : branches[place]? with
      | none => exact ⟨tasks, List.prefix_refl tasks, hm₁, hbranches⟩
      | some r =>
        dsimp only
        obtain ⟨step, hstep, hr⟩ := hbranches.getElem? hbranch
        obtain ⟨tasks₁, hmore, hm₂, hr'⟩ :=
          hrun ⟨callee.task, (number, place) :: callee.branches⟩ hm₁ hr
        generalize run ⟨callee.task, (number, place) :: callee.branches⟩ r m₁ = ran at hm₂ hr' ⊢
        obtain ⟨r', m₂⟩ := ran
        have hset : Running.UnderwayAll tasks₁ (branches.set place r') steps :=
          (hbranches.mono hmore).set hstep hr'
        have hgoes : ∀ stopped eager (m₃ : Machine σ β), m₃.tasks = m₂.tasks →
            Step.AllComeTo tasks steps
              (runCrowd callee number run fuel stopped eager (branches.set place r') m₃) := by
          intro stopped eager m₃ hm₃
          obtain ⟨tasks₂, hmore₂, hrest⟩ := ih stopped eager _ m₃ (hm₂.of_tasks hm₃) hset
          exact ⟨tasks₂, hmore.trans hmore₂, hrest⟩
        dsimp only
        generalize (if m₂.isCalled number place then eager + 1 else eager) = eager'
        split
        · exact hgoes 0 0 _ rfl
        · split
          · exact ⟨tasks₁, hmore, hm₂.of_tasks (m₂.keeps_call callee).tasks, hset⟩
          · exact hgoes _ _ m₂ rfl

end Machine

namespace Running

section

variable {run : Running σ β → Machine σ β → Running σ β × Machine σ β} (hrun : KeepsAccount run)

include hrun

/-- **Steps in order come to their answers** in order, or are under way. -/
theorem runSeq_comesTo (rest : List (Step σ β)) :
    ∀ {tasks : List (Step σ β)} {next : Step σ β} (before : List (Step σ β))
      (answered : List (Answer β)) (current : Running σ β) (m : Machine σ β), m.Accounted tasks →
      Step.MayAnswerAll before answered → current.Underway tasks next →
      (Step.seq (before ++ next :: rest)).ComesTo tasks (runSeq run answered current rest m) := by
  induction rest with
  | nil =>
    intro tasks next before answered current m hm hanswered hcurrent
    obtain ⟨tasks', hmore, hm', hr⟩ := hrun hm hcurrent
    unfold runSeq
    generalize run current m = ran at hm' hr ⊢
    obtain ⟨r, m'⟩ := ran
    cases r with
    | done a => exact ⟨tasks', hmore, hm', Step.mayAnswerAll_append_one hanswered hr⟩
    | _ => exact ⟨tasks', hmore, hm', before, next, rfl, hanswered, hr⟩
  | cons step rest ih =>
    intro tasks next before answered current m hm hanswered hcurrent
    obtain ⟨tasks', hmore, hm', hr⟩ := hrun hm hcurrent
    unfold runSeq
    generalize run current m = ran at hm' hr ⊢
    obtain ⟨r, m'⟩ := ran
    cases r with
    | done a =>
      have hready : (ready step).Underway tasks' step := rfl
      have hrest := ih (before ++ [next]) (answered ++ [a]) (ready step) m' hm'
        (Step.mayAnswerAll_append_one hanswered hr) hready
      rw [List.append_assoc] at hrest
      exact hrest.of_more hmore
    | _ => exact ⟨tasks', hmore, hm', before, next, rfl, hanswered, hr⟩

theorem runAll_comesTo (rs : List (Running σ β)) :
    ∀ {tasks steps : List (Step σ β)} (m : Machine σ β), m.Accounted tasks →
      UnderwayAll tasks rs steps → Step.AllComeTo tasks steps (runAll run rs m) := by
  induction rs with
  | nil => exact fun m hm hrs => ⟨_, List.prefix_refl _, hm, hrs⟩
  | cons r rest ih =>
    intro tasks steps m hm hrs
    cases steps with
    | nil => exact hrs.elim
    | cons step steps =>
      obtain ⟨hr, hrest⟩ := hrs
      obtain ⟨tasks₁, hmore₁, hm₁, hr₁⟩ := hrun hm hr
      obtain ⟨tasks₂, hmore₂, hm₂, hrest₂⟩ := ih (run r m).2 hm₁ (hrest.mono hmore₁)
      exact ⟨tasks₂, hmore₁.trans hmore₂, hm₂, hr₁.mono hmore₂, hrest₂⟩

/-- A join of few branches comes to their answers, or is under way. -/
theorem runJoin_comesTo {tasks steps : List (Step σ β)} {m : Machine σ β} (hm : m.Accounted tasks)
    {rs : List (Running σ β)} (hrs : UnderwayAll tasks rs steps) :
    (Step.join steps).ComesTo tasks (runJoin run rs m) := by
  obtain ⟨tasks', hmore, hm', hrs'⟩ := runAll_comesTo hrun rs m hm hrs
  exact ⟨tasks', hmore, hm', hrs'.joined ⟨steps, rfl, hrs'⟩⟩

end

theorem runCrowd_comesTo {run : Callee → Running σ β → Machine σ β → Running σ β × Machine σ β}
    (hrun : ∀ callee, KeepsAccount (run callee)) (callee : Callee) (number : Nat)
    {tasks steps : List (Step σ β)} {m : Machine σ β} (hm : m.Accounted tasks)
    {rs : List (Running σ β)} (hrs : UnderwayAll tasks rs steps) :
    (Step.join steps).ComesTo tasks (runCrowd callee run number rs m) := by
  obtain ⟨tasks', hmore, hm', hrs'⟩ := Machine.runCrowd_comesTo hrun callee number
    ((rs.length + 1) * (rs.length + 1)) 0 0 rs (m.listen number) (hm.of_tasks rfl) hrs
  exact ⟨tasks', hmore, hm', hrs'.joined ⟨steps, rfl, hrs'⟩⟩

/-- A task of its own is under way to what its step may answer, with or without a context. -/
theorem ofTask_underway (body : Step σ β) (taken : Option RequestContext) :
    ∃ started : Step σ β, (∀ tasks, (ofTask body taken).Underway tasks started) ∧
      ∀ a, started.MayAnswer a → body.MayAnswer a := by
  cases taken with
  | none => exact ⟨body, fun _ => rfl, fun _ h => h⟩
  | some context =>
    exact ⟨.install context body, fun _ => ⟨context, body, rfl, rfl⟩, fun _ h => h⟩

/-- **A step under way keeps account**, however far it comes. -/
theorem resume_keepsAccount (depth : Nat) : ∀ callee : Callee,
    KeepsAccount (resume depth callee : Running σ β → Machine σ β → Running σ β × Machine σ β) := by
  induction depth with
  | zero => exact fun callee _ _ _ _ hm hr => .stay hm hr
  | succ depth ih =>
    intro callee tasks r step m hm hr
    -- acts start no task, whether they begin now or go on after a wait
    have hacts : ∀ (p : Procedure σ β) visit, (∀ b, p.MayEnd b → step.MayAnswer (.one b)) →
        step.ComesTo tasks (m.perform callee visit p) := fun p visit hp =>
      .stay (hm.of_tasks (m.keeps_perform callee p visit).tasks)
        (Machine.perform_underway callee p visit m hp)
    cases r with
    | done a => exact .stay hm hr
    | ready begun =>
      subst hr
      cases begun with
      | act procedure => exact hacts procedure none fun b hb => hb
      | pause => exact .stay (hm.of_tasks (m.keeps_postpone callee).tasks) trivial
      | seq steps =>
        cases steps with
        | nil => exact .stay hm trivial
        | cons first rest =>
          exact runSeq_comesTo (ih callee) rest [] [] (ready first) m hm trivial rfl
      | install inner body =>
        exact Machine.inContext_comesTo (ih callee (hm.of_tasks rfl) rfl)
      | spawn inherits body =>
        obtain ⟨started, hready, hanswers⟩ :=
          ofTask_underway body (if inherits then m.current else none)
        -- the new task is accounted for before it is waited for
        have hm' := hm.addTask (hready (tasks ++ [started]))
        have htask : (awaiting m.tasks.length).Underway (tasks ++ [started])
            (.spawn inherits body) := by
          refine ⟨started, ?_, hanswers⟩
          rw [hm.length, List.getElem?_concat_length]
        exact (Machine.await_comesTo hm' callee htask).of_more (List.prefix_append _ _)
      | detach inherits body =>
        obtain ⟨started, hready, -⟩ := ofTask_underway body (if inherits then m.current else none)
        have hm' := hm.addTask (hready (tasks ++ [started]))
        exact ⟨tasks ++ [started], List.prefix_append _ _, hm', trivial⟩
      | join branches =>
        have hready : UnderwayAll tasks (branches.map ready) branches := underwayAll_ready branches
        have hcrowd : (m.addCrowd (branches.map (ready : Step σ β → Running σ β)).length).Accounted
            tasks := hm.of_tasks rfl
        unfold resume
        dsimp only
        split
        · exact runJoin_comesTo (ih callee) hm hready
        · exact runCrowd_comesTo ih callee _ hcrowd hready
    | acting visit rest => exact hacts rest visit hr
    | paused => exact .stay hm hr
    | seq answered current rest =>
      obtain ⟨before, next, rfl, hanswered, hcurrent⟩ := hr
      exact runSeq_comesTo (ih callee) rest before answered current m hm hanswered hcurrent
    | install inner body =>
      obtain ⟨context, body', rfl, hbody⟩ := hr
      exact Machine.inContext_comesTo (ih callee (hm.of_tasks rfl) hbody)
    | awaiting task => exact Machine.await_comesTo hm callee hr
    | join branches =>
      obtain ⟨steps, rfl, hbranches⟩ := hr
      exact runJoin_comesTo (ih callee) hm hbranches
    | crowd number branches =>
      obtain ⟨steps, rfl, hbranches⟩ := hr
      exact runCrowd_comesTo ih callee number hm hbranches

end Running

/-! ## Turns -/

namespace Machine

variable {tasks : List (Step σ β)} {m : Machine σ β}

/-- **A turn keeps account.** -/
theorem Accounted.turn (h : m.Accounted tasks) (task : Nat) :
    ∃ tasks', tasks <+: tasks' ∧ (m.turn task).Accounted tasks' := by
  unfold Machine.turn
  cases hstored : m.tasks[task]? with
  | none => exact ⟨tasks, List.prefix_refl tasks, h⟩
  | some t =>
    dsimp only
    obtain ⟨step, hstep, hunderway⟩ := h.underway hstored
    have hstart : ({ m with active := some task, again := false, allowance := turnAllowance } :
        Machine σ β).Accounted tasks := h.of_tasks rfl
    obtain ⟨tasks', hmore, hm', hr⟩ :=
      Running.resume_keepsAccount m.depth ⟨task, []⟩ hstart hunderway
    generalize t.progress.resume m.depth ⟨task, []⟩ { m with
      active := some task, again := false, allowance := turnAllowance } = ran at hm' hr ⊢
    obtain ⟨progress, m'⟩ := ran
    have hstopped : (m'.stopped task progress).Accounted tasks' :=
      hm'.set (Running.getElem?_of_more hmore hstep) hr rfl
    exact ⟨tasks', hmore, hstopped.of_tasks (m'.keeps_endTurn task progress).tasks⟩

/-- **Every task stays accounted for** under every schedule. -/
theorem Accounted.run (h : m.Accounted tasks) (schedule : List Nat) :
    ∃ tasks', tasks <+: tasks' ∧ (m.run schedule).Accounted tasks' := by
  induction schedule generalizing m tasks with
  | nil => exact ⟨tasks, List.prefix_refl tasks, h⟩
  | cons task rest ih =>
    obtain ⟨tasks₁, hmore₁, hturn⟩ := h.turn task
    obtain ⟨tasks₂, hmore₂, hrest⟩ := ih hturn
    exact ⟨tasks₂, hmore₁.trans hmore₂, hrest⟩

/-- The main task of a machine answers as its step may. -/
theorem Accounted.answer {step : Step σ β} (h : m.Accounted tasks) (hfirst : [step] <+: tasks)
    {a : Answer β} (ha : m.answer? = some a) : step.MayAnswer a := by
  obtain ⟨rest, rfl⟩ := hfirst
  unfold answer? at ha
  cases hmain : m.tasks.head? with
  | none => rw [hmain] at ha; cases ha
  | some t =>
    rw [hmain] at ha
    rw [List.head?_eq_getElem?] at hmain
    obtain ⟨step', hstep', hunderway⟩ := h.underway hmain
    cases hstep'
    obtain ⟨progress, waiter⟩ := t
    cases progress with
    | done a' =>
      cases ha
      exact hunderway
    | _ => cases ha

end Machine

end RowGuard
