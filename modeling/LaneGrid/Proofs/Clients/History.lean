import Mathlib.Data.List.Infix
import Mathlib.Data.List.Nodup
import Mathlib.Data.List.Perm.Subperm
import LaneGrid.Queue.Task

namespace LaneGrid

/-- A task is over after all of its steps, or after the first one that fails. -/
inductive Submission.Ends {σ : Type} (r : Submission σ) : List (Outcome Unit) → Option Error → Prop
  | all : r.Ends (List.replicate r.task.length (.ok ())) none
  | failed {n : Nat} {f : Failure} (hn : n < r.task.length) :
      r.Ends (List.replicate n (.ok ()) ++ [.error f]) (some f.ofTask)

/-- How far a submission has come. -/
inductive Phase where
  /-- The call has begun, and the task is counted. -/
  | submitted
  /-- The task is on its way, and the call is over. -/
  | sent
  | started
  | finished

inductive Occurrence (σ : Type) where
  | submitted (submission : Submission σ)
  | sent (submission : Submission σ)
  /-- The call is over, and nobody will run the task. -/
  | refused (submission : Submission σ)
  | started (submission : Submission σ)
  /-- The next step of the task is over. -/
  | performed (submission : Submission σ) (result : Outcome Unit)
  | finished (submission : Submission σ) (failure : Option Error)
  | recorded (marker : Marker)
  /-- A client that has waited is told how the tasks ended. -/
  | answered (client queue : Nat) (answer : Except Error Unit)
  | dropped (queue : Nat)

namespace Occurrence

variable {σ : Type}

def submission? : Phase → Occurrence σ → Option (Submission σ)
  | .submitted, submitted r => some r
  | .sent, sent r => some r
  | .started, started r => some r
  | .finished, finished r _ => some r
  | _, _ => none

def queue : Occurrence σ → Nat
  | submitted r | sent r | refused r | started r | performed r _ | finished r _ => r.queue
  | recorded m => m.queue
  | answered _ q _ | dropped q => q

theorem queue_of_submission? {phase : Phase} {x : Occurrence σ} {r : Submission σ}
    (hx : x.submission? phase = some r) : x.queue = r.queue := by
  cases phase <;> cases x <;> cases hx <;> rfl

/-- How a step of the task went. -/
def result? (r : Submission σ) : Occurrence σ → Option (Outcome Unit)
  | performed r' result => if r'.queue = r.queue ∧ r'.number = r.number then some result else none
  | _ => none

/-- The failure of a task of a queue, where one is reported. -/
def failure? (queue : Nat) : Occurrence σ → Option Error
  | finished r failure => if r.queue = queue then failure else none
  | _ => none

/-- Whether a client of a queue has been told about failures, which are forgotten then. -/
def answers (queue : Nat) : Occurrence σ → Bool
  | answered _ q _ => q = queue
  | _ => false

end Occurrence

abbrev History (σ : Type) := List (Occurrence σ)

namespace History

variable {σ : Type} {h earlier later : History σ} {x : Occurrence σ} {q : Nat} {r r' : Submission σ}

/-- The submissions of a queue that have come to a phase, in the order in which they came to it. -/
def reached (h : History σ) (phase : Phase) (queue : Nat) : List (Submission σ) :=
  h.filterMap fun x => (x.submission? phase).filter fun r => r.queue = queue

/-- How the steps of a task went that have been performed. -/
def results (h : History σ) (r : Submission σ) : List (Outcome Unit) :=
  h.filterMap (Occurrence.result? r)

/-- What has happened since a client of the queue was told about failures. -/
def sinceAnswer (h : History σ) (queue : Nat) : History σ :=
  (h.reverse.takeWhile fun x => !x.answers queue).reverse

/-- The first failure of a task of a queue that no client has been told about. -/
def failure? (h : History σ) (queue : Nat) : Option Error :=
  (h.sinceAnswer queue).findSome? (Occurrence.failure? queue)

/-- What a client that has waited is to be told. -/
def answer (h : History σ) (queue : Nat) : Except Error Unit :=
  match h.failure? queue with
  | some e => .error e
  | none => .ok ()

theorem reached_concat_eq (h : History σ) (x : Occurrence σ) (phase : Phase) (q : Nat) :
    reached (h ++ [x]) phase q =
      reached h phase q ++ ((x.submission? phase).filter fun r => r.queue = q).toList := by
  rw [reached, List.filterMap_append, reached]
  cases hx : (x.submission? phase).filter fun r => r.queue = q with
  | none => simp only [List.filterMap_cons, hx, List.filterMap_nil, Option.toList_none]
  | some r => simp only [List.filterMap_cons, hx, List.filterMap_nil, Option.toList_some]

theorem reached_concat (h : History σ) (phase : Phase) (hx : x.submission? phase = some r) :
    reached (h ++ [x]) phase r.queue = reached h phase r.queue ++ [r] := by
  rw [reached_concat_eq, hx, Option.filter_some, if_pos (decide_eq_true rfl), Option.toList_some]

theorem reached_concat_of_ne (h : History σ) (phase : Phase) (hx : x.submission? phase = some r)
    (hq : r.queue ≠ q) : reached (h ++ [x]) phase q = reached h phase q := by
  rw [reached_concat_eq, hx, Option.filter_some, if_neg (by simpa using hq), Option.toList_none,
    List.append_nil]

theorem reached_concat_of_queue_ne (h : History σ) (phase : Phase) (hq : x.queue ≠ q) :
    reached (h ++ [x]) phase q = reached h phase q := by
  rw [reached_concat_eq]
  cases hx : x.submission? phase with
  | none => rw [Option.filter_none, Option.toList_none, List.append_nil]
  | some r =>
      rw [Option.filter_some, if_neg (by simpa [← Occurrence.queue_of_submission? hx] using hq),
        Option.toList_none, List.append_nil]

theorem reached_concat_none (h : History σ) (phase : Phase) (hx : x.submission? phase = none) :
    reached (h ++ [x]) phase q = reached h phase q := by
  rw [reached_concat_eq, hx, Option.filter_none, Option.toList_none, List.append_nil]

theorem reached_isPrefix (earlier later : History σ) (phase : Phase) (q : Nat) :
    reached earlier phase q <+: reached (earlier ++ later) phase q := by
  rw [reached, reached, List.filterMap_append]
  exact List.prefix_append _ _

theorem mem_reached {phase : Phase} :
    r ∈ reached h phase q ↔ (∃ x ∈ h, x.submission? phase = some r) ∧ r.queue = q := by
  simp only [reached, List.mem_filterMap, Option.filter_eq_some_iff, decide_eq_true_eq]
  constructor
  · rintro ⟨x, hx, hr, hq⟩
    exact ⟨⟨x, hx, hr⟩, hq⟩
  · rintro ⟨⟨x, hx, hr⟩, hq⟩
    exact ⟨x, hx, hr, hq⟩

theorem mem_submitted : r ∈ reached h .submitted q ↔ .submitted r ∈ h ∧ r.queue = q := by
  rw [mem_reached]
  refine and_congr_left fun _ => ⟨fun ⟨x, hx, hr⟩ => ?_, fun hr => ⟨_, hr, rfl⟩⟩
  cases x with
  | submitted r₁ => exact Option.some.inj hr ▸ hx
  | _ => cases hr

theorem mem_sent : r ∈ reached h .sent q ↔ .sent r ∈ h ∧ r.queue = q := by
  rw [mem_reached]
  refine and_congr_left fun _ => ⟨fun ⟨x, hx, hr⟩ => ?_, fun hr => ⟨_, hr, rfl⟩⟩
  cases x with
  | sent r₁ => exact Option.some.inj hr ▸ hx
  | _ => cases hr

theorem mem_finished :
    r ∈ reached h .finished q ↔ (∃ failure, .finished r failure ∈ h) ∧ r.queue = q := by
  rw [mem_reached]
  refine and_congr_left fun _ => ⟨fun ⟨x, hx, hr⟩ => ?_, fun ⟨_, hr⟩ => ⟨_, hr, rfl⟩⟩
  cases x with
  | finished r₁ failure => exact Option.some.inj hr ▸ ⟨failure, hx⟩
  | _ => cases hr

theorem mem_started : r ∈ reached h .started q ↔ .started r ∈ h ∧ r.queue = q := by
  rw [mem_reached]
  refine and_congr_left fun _ => ⟨fun ⟨x, hx, hr⟩ => ?_, fun hr => ⟨_, hr, rfl⟩⟩
  cases x with
  | started r₁ => exact Option.some.inj hr ▸ hx
  | _ => cases hr

theorem queue_eq_of_runs
    (hruns : h.reached .started q = h.reached .finished q ++ [r]) : r.queue = q :=
  (mem_started.mp (hruns ▸ List.mem_append_right _ List.mem_cons_self)).2

theorem results_concat_eq (h : History σ) (x : Occurrence σ) (r : Submission σ) :
    results (h ++ [x]) r = results h r ++ (x.result? r).toList := by
  rw [results, List.filterMap_append, results]
  cases hx : x.result? r with
  | none => simp only [List.filterMap_cons, hx, List.filterMap_nil, Option.toList_none]
  | some result => simp only [List.filterMap_cons, hx, List.filterMap_nil, Option.toList_some]

theorem results_concat_performed (h : History σ) (r : Submission σ) (result : Outcome Unit) :
    results (h ++ [.performed r result]) r = results h r ++ [result] := by
  rw [results_concat_eq, Occurrence.result?, if_pos ⟨rfl, rfl⟩, Option.toList_some]

theorem results_concat_none (h : History σ) (hx : x.result? r = none) :
    results (h ++ [x]) r = results h r := by
  rw [results_concat_eq, hx, Option.toList_none, List.append_nil]

theorem results_concat_of_queue_ne (h : History σ) (hq : x.queue ≠ r.queue) :
    results (h ++ [x]) r = results h r := by
  refine results_concat_none h ?_
  cases x with
  | performed r' result => exact if_neg fun hr => hq hr.1
  | _ => rfl

theorem failure?_concat (h : History σ) (x : Occurrence σ) (q : Nat) :
    failure? (h ++ [x]) q = if x.answers q then none else (h.failure? q).or (x.failure? q) := by
  rw [failure?, sinceAnswer, List.reverse_append, List.reverse_singleton, List.singleton_append,
    List.takeWhile_cons]
  cases x.answers q with
  | true => rfl
  | false =>
      simp only [Bool.not_false, if_pos, List.reverse_cons, List.findSome?_append,
        List.findSome?_singleton]
      rfl

theorem failure?_concat_none (h : History σ) (hanswers : x.answers q = false)
    (hfailure : x.failure? q = none) : failure? (h ++ [x]) q = h.failure? q := by
  rw [failure?_concat, hanswers, hfailure, Option.or_none]
  rfl

theorem failure?_concat_of_queue_ne (h : History σ) (hq : x.queue ≠ q) :
    failure? (h ++ [x]) q = h.failure? q := by
  cases x with
  | answered client q' answer =>
      exact failure?_concat_none h (by simpa [Occurrence.answers, Occurrence.queue] using hq) rfl
  | finished r failure => exact failure?_concat_none h rfl (if_neg hq)
  | _ => exact failure?_concat_none h rfl rfl

end History

/-- What may happen after what has happened. -/
inductive Occurrence.Follows {σ : Type} (h : History σ) : Occurrence σ → Prop
  | submitted {r} (hnew : ∀ r', .submitted r' ∈ h → r'.number ≠ r.number)
      (hmarkers : ∀ m, .await m ∈ r.task → .recorded m ∈ h) : Follows h (.submitted r)
  | sent {r} (hsubmitted : .submitted r ∈ h) (hnew : .sent r ∉ h) : Follows h (.sent r)
  /-- The task that was sent before all others that wait, once no other task runs. -/
  | started {r later}
      (hfirst : h.reached .sent r.queue = h.reached .started r.queue ++ r :: later)
      (hfree : h.reached .finished r.queue = h.reached .started r.queue) : Follows h (.started r)
  | performed {r n result}
      (hruns : h.reached .started r.queue = h.reached .finished r.queue ++ [r])
      (hresults : h.results r = List.replicate n (.ok ())) (hn : n < r.task.length) :
      Follows h (.performed r result)
  | finished {r failure}
      (hruns : h.reached .started r.queue = h.reached .finished r.queue ++ [r])
      (hends : r.Ends (h.results r) failure) : Follows h (.finished r failure)
  | recorded {m} (hall : m.target = (h.reached .submitted m.queue).length) :
      Follows h (.recorded m)
  | answered {client queue} : Follows h (.answered client queue (h.answer queue))
  | dropped {queue} (hall : h.reached .finished queue = h.reached .sent queue) :
      Follows h (.dropped queue)

namespace History

variable {σ : Type} {h earlier later : History σ} {x : Occurrence σ} {q : Nat} {r r' : Submission σ}

/-- Everything that has happened was allowed to happen when it did. -/
def Lawful (h : History σ) : Prop :=
  ∀ earlier x later, h = earlier ++ x :: later → x.Follows earlier

theorem lawful_nil : Lawful ([] : History σ) := by
  intro earlier x later h
  cases earlier <;> cases h

theorem split_concat {y : Occurrence σ} (heq : h ++ [x] = earlier ++ y :: later) :
    earlier = h ∧ y = x ∨ ∃ later, h = earlier ++ y :: later := by
  rcases List.eq_nil_or_concat later with rfl | ⟨later, z, rfl⟩
  · obtain ⟨rfl, hxy⟩ := List.append_inj' heq rfl
    exact .inl ⟨rfl, (List.head_eq_of_cons_eq hxy).symm⟩
  · rw [List.concat_eq_append, ← List.cons_append, ← List.append_assoc] at heq
    exact .inr ⟨later, (List.append_inj' heq rfl).1⟩

theorem lawful_concat : Lawful (h ++ [x]) ↔ Lawful h ∧ x.Follows h := by
  constructor
  · intro hall
    refine ⟨fun earlier y later heq => hall earlier y (later ++ [x]) ?_, hall h x [] rfl⟩
    rw [heq, List.append_assoc, List.cons_append]
  · rintro ⟨hall, hx⟩ earlier y later heq
    rcases split_concat heq with ⟨rfl, rfl⟩ | ⟨later, heq⟩
    · exact hx
    · exact hall earlier y later heq

theorem Lawful.of_append (hall : Lawful (earlier ++ later)) : Lawful earlier := by
  intro before x after heq
  refine hall before x (after ++ later) ?_
  rw [heq, List.append_assoc, List.cons_append]

theorem Lawful.follows (hall : Lawful (earlier ++ x :: later)) : x.Follows earlier :=
  hall earlier x later rfl

theorem Lawful.isPrefix (hall : Lawful h) (q : Nat) :
    reached h .finished q <+: reached h .started q ∧
      reached h .started q <+: reached h .sent q := by
  induction h using List.reverseRecOn with
  | nil => exact ⟨List.prefix_refl _, List.prefix_refl _⟩
  | append_singleton h x ih =>
      obtain ⟨hall, hx⟩ := lawful_concat.mp hall
      obtain ⟨hfinished, hstarted⟩ := ih hall
      cases hx with
      | sent =>
          rw [reached_concat_none h .finished rfl,
            reached_concat_none h .started rfl]
          exact ⟨hfinished, hstarted.trans (reached_isPrefix h _ _ q)⟩
      | @started r later hfirst hfree =>
          rw [reached_concat_none h .finished rfl,
            reached_concat_none h .sent rfl]
          refine ⟨hfinished.trans (reached_isPrefix h _ _ q), ?_⟩
          by_cases hq : r.queue = q
          · subst hq
            rw [reached_concat h _ rfl, hfirst]
            exact ⟨later, by rw [List.append_assoc, List.singleton_append]⟩
          · rw [reached_concat_of_ne h _ rfl hq]
            exact hstarted
      | @finished r failure hruns =>
          rw [reached_concat_none h .started rfl,
            reached_concat_none h .sent rfl]
          refine ⟨?_, hstarted⟩
          by_cases hq : r.queue = q
          · subst hq
            rw [reached_concat h _ rfl, hruns]
          · rw [reached_concat_of_ne h _ rfl hq]
            exact hfinished
      | _ =>
          rw [reached_concat_none h _ rfl, reached_concat_none h _ rfl, reached_concat_none h _ rfl]
          exact ⟨hfinished, hstarted⟩

theorem Lawful.exists_running (hall : Lawful h) (q : Nat) : ∃ running,
    reached h .started q = reached h .finished q ++ running ∧ running.length ≤ 1 := by
  induction h using List.reverseRecOn with
  | nil => exact ⟨[], rfl, Nat.zero_le 1⟩
  | append_singleton h x ih =>
      obtain ⟨hall, hx⟩ := lawful_concat.mp hall
      obtain ⟨running, hrunning, hle⟩ := ih hall
      cases hx with
      | @started r later hfirst hfree =>
          rw [reached_concat_none h .finished rfl]
          by_cases hq : r.queue = q
          · subst hq
            exact ⟨[r], by rw [reached_concat h _ rfl, hfree], le_rfl⟩
          · rw [reached_concat_of_ne h _ rfl hq]
            exact ⟨running, hrunning, hle⟩
      | @finished r failure hruns =>
          rw [reached_concat_none h .started rfl]
          by_cases hq : r.queue = q
          · subst hq
            exact ⟨[], by rw [reached_concat h _ rfl, hruns, List.append_nil], Nat.zero_le 1⟩
          · rw [reached_concat_of_ne h _ rfl hq]
            exact ⟨running, hrunning, hle⟩
      | _ =>
          rw [reached_concat_none h _ rfl, reached_concat_none h _ rfl]
          exact ⟨running, hrunning, hle⟩

theorem Lawful.submitted_of_sent (hall : Lawful h) (hr : .sent r ∈ h) : .submitted r ∈ h := by
  obtain ⟨earlier, later, rfl⟩ := List.append_of_mem hr
  cases hall.follows with
  | sent hsubmitted => exact List.mem_append_left _ hsubmitted

theorem nodup_reached {phase : Phase}
    (hnew : ∀ earlier x later r, h = earlier ++ x :: later → x.submission? phase = some r →
      r ∉ reached earlier phase r.queue) (q : Nat) : (reached h phase q).Nodup := by
  induction h using List.reverseRecOn with
  | nil => exact List.nodup_nil
  | append_singleton h x ih =>
      have hbefore := ih fun earlier y later r heq =>
        hnew earlier y (later ++ [x]) r (by rw [heq, List.append_assoc, List.cons_append])
      cases hx : x.submission? phase with
      | none =>
          rw [reached_concat_none h _ hx]
          exact hbefore
      | some r =>
          by_cases hq : r.queue = q
          · subst hq
            rw [reached_concat h _ hx, ← List.concat_eq_append]
            exact hbefore.concat (hnew h x [] r rfl hx)
          · rw [reached_concat_of_ne h _ hx hq]
            exact hbefore

theorem Lawful.nodup_submitted (hall : Lawful h) (q : Nat) : (reached h .submitted q).Nodup := by
  refine nodup_reached (fun earlier x later r heq hr hmem => ?_) q
  have hx := hall earlier x later heq
  cases hx with
  | submitted hnew =>
      obtain rfl := Option.some.inj hr
      exact hnew _ (mem_submitted.mp hmem).1 rfl
  | _ => cases hr

theorem Lawful.nodup_sent (hall : Lawful h) (q : Nat) : (reached h .sent q).Nodup := by
  refine nodup_reached (fun earlier x later r heq hr hmem => ?_) q
  have hx := hall earlier x later heq
  cases hx with
  | sent _ hnew =>
      obtain rfl := Option.some.inj hr
      exact hnew (mem_sent.mp hmem).1
  | _ => cases hr

theorem Lawful.eq_of_number_eq (hall : Lawful h) (hr : .submitted r ∈ h) (hr' : .submitted r' ∈ h)
    (hnumber : r.number = r'.number) : r = r' := by
  obtain ⟨earlier, later, rfl⟩ := List.append_of_mem hr
  rcases List.mem_append.mp hr' with hbefore | hafter
  · cases hall.follows with
    | submitted hnew => exact absurd hnumber.symm (hnew r' hbefore)
  · rcases List.mem_cons.mp hafter with heq | hafter
    · cases heq
      rfl
    · obtain ⟨between, later, rfl⟩ := List.append_of_mem hafter
      rw [← List.cons_append, ← List.append_assoc] at hall
      cases hall.follows with
      | submitted hnew => exact absurd hnumber (hnew r (List.mem_append_right _ List.mem_cons_self))

theorem Lawful.submitted_of_started (hall : Lawful h) (hr : .started r ∈ h) : .submitted r ∈ h := by
  have hmem : r ∈ reached h .started r.queue := mem_started.mpr ⟨hr, rfl⟩
  exact hall.submitted_of_sent (mem_sent.mp ((hall.isPrefix r.queue).2.subset hmem)).1

theorem Lawful.results_eq_nil (hall : Lawful h) (hr : .submitted r ∈ h) (hnew : .started r ∉ h) :
    h.results r = [] := by
  rw [results, List.filterMap_eq_nil_iff]
  intro x hx
  cases x with
  | performed r' result =>
      refine if_neg fun hsame => hnew ?_
      obtain ⟨earlier, later, rfl⟩ := List.append_of_mem hx
      cases hall.follows with
      | performed hruns =>
          have hmem : r' ∈ reached earlier .started r'.queue := by
            rw [hruns]
            exact List.mem_append_right _ List.mem_cons_self
          have hstarted :=
            List.mem_append_left (.performed r' result :: later) (mem_started.mp hmem).1
          obtain rfl := hall.eq_of_number_eq (hall.submitted_of_started hstarted) hr hsame.2
          exact hstarted
  | _ => rfl

theorem Lawful.nodup_started (hall : Lawful h) (q : Nat) : (reached h .started q).Nodup :=
  (hall.isPrefix q).2.sublist.nodup (hall.nodup_sent q)

theorem Lawful.ends_of_finished {failure : Option Error} (hall : Lawful h)
    (hr : .finished r failure ∈ h) : r.Ends (h.results r) failure := by
  induction h using List.reverseRecOn with
  | nil => cases hr
  | append_singleton h x ih =>
      obtain ⟨hbefore, hx⟩ := lawful_concat.mp hall
      rcases List.mem_append.mp hr with hr | hr
      · have hmem := mem_finished.mpr ⟨⟨failure, hr⟩, rfl⟩
        have hquiet : x.result? r = none := by
          cases hx with
          | @performed r' n result hruns =>
              refine if_neg fun hsame => ?_
              have hstarted := hbefore.nodup_started r'.queue
              have hlast : r' ∈ reached h .started r'.queue := by
                rw [hruns]
                exact List.mem_append_right _ List.mem_cons_self
              obtain rfl : r = r' := hbefore.eq_of_number_eq
                (hbefore.submitted_of_started
                  (mem_started.mp ((hbefore.isPrefix r.queue).1.subset hmem)).1)
                (hbefore.submitted_of_started (mem_started.mp hlast).1) hsame.2.symm
              rw [hruns] at hstarted
              exact List.disjoint_of_nodup_append hstarted hmem List.mem_cons_self
          | _ => rfl
        rw [results_concat_none h hquiet]
        exact ih hbefore hr
      · obtain rfl := List.mem_singleton.mp hr
        rw [results_concat_none h rfl]
        cases hx with
        | finished _ hends => exact hends

theorem Lawful.length_sent_le (hall : Lawful h) (q : Nat) :
    (reached h .sent q).length ≤ (reached h .submitted q).length := by
  refine (List.subperm_of_subset (hall.nodup_sent q) fun r hr => ?_).length_le
  obtain ⟨hr, hq⟩ := mem_sent.mp hr
  exact mem_submitted.mpr ⟨hall.submitted_of_sent hr, hq⟩

/-- A task whose call was over before the call for another one began is over before the other one
starts. -/
theorem Lawful.finished_of_sent_before {between : History σ}
    (hall : Lawful (earlier ++ .submitted r' :: between ++ .started r' :: later))
    (hr : .sent r ∈ earlier) (hq : r.queue = r'.queue) :
    ∃ failure, .finished r failure ∈ earlier ++ .submitted r' :: between := by
  -- What was sent in `earlier` lies before `r'`, which starts only after all of that is over.
  have hbefore : .sent r' ∉ earlier := by
    intro hsent
    have hall₁ : Lawful (earlier ++ .submitted r' :: between) := hall.of_append
    cases hall₁.follows with
    | submitted hnew =>
        exact hnew r' (hall₁.of_append.submitted_of_sent hsent) rfl
  have hfollows := hall.follows
  generalize hnow : earlier ++ .submitted r' :: between = now at hfollows ⊢
  have hbegins : reached earlier .sent r'.queue <+: reached now .sent r'.queue := by
    rw [← hnow]
    exact reached_isPrefix _ _ _ _
  have hmem : r ∈ reached earlier .sent r'.queue := mem_sent.mpr ⟨hr, hq⟩
  cases hfollows with
  | @started _ waiting hfirst hfree =>
      rw [hfirst] at hbegins
      have hstarted : reached earlier .sent r'.queue <+: reached now .started r'.queue := by
        rcases List.prefix_or_prefix_of_prefix hbegins (List.prefix_append _ _) with
          hle | ⟨rest, hrest⟩
        · exact hle
        · rw [← hrest, List.prefix_append_right_inj] at hbegins
          rcases List.prefix_cons_iff.mp hbegins with rfl | ⟨rest', rfl, -⟩
          · rw [← hrest, List.append_nil]
          · have hlate : r' ∈ reached earlier .sent r'.queue := by
              rw [← hrest]
              exact List.mem_append_right _ List.mem_cons_self
            exact absurd (mem_sent.mp hlate).1 hbefore
      rw [← hfree] at hstarted
      exact (mem_finished.mp (hstarted.subset hmem)).1

/-- A marker is not complete before the tasks are over whose calls were over when it was
recorded. -/
theorem Lawful.finished_of_target_le {m : Marker}
    (hall : Lawful (earlier ++ .recorded m :: later)) (hr : .sent r ∈ earlier)
    (hq : r.queue = m.queue)
    (hle : m.target ≤ (reached (earlier ++ .recorded m :: later) .finished m.queue).length) :
    ∃ failure, .finished r failure ∈ earlier ++ .recorded m :: later := by
  have hmem : r ∈ reached earlier .sent m.queue := mem_sent.mpr ⟨hr, hq⟩
  have hlength := (hall.of_append).length_sent_le m.queue
  obtain ⟨hfinished, hstarted⟩ := hall.isPrefix m.queue
  cases hall.follows with
  | recorded hcount =>
      have hbegins := List.prefix_of_prefix_length_le
        (reached_isPrefix earlier (.recorded m :: later) .sent m.queue)
        (hfinished.trans hstarted) (by omega)
      exact (mem_finished.mp (hbegins.subset hmem)).1

end History

end LaneGrid
