import ArtifactTools.Process.SystemLauncher
import Mathlib.Data.List.Sort

/-! What a supervised launch comes to. The first look that settles the matter decides the answer, by
rules that stand in the order of their precedence, and whatever it decides the child has been
collected in the end, after at most one kill. -/

namespace ArtifactTools.Supervision

/-! What is done to the child. -/

structure Keeper.Sound (keeper : Keeper) : Prop where
  collected : keeper.collected = true ↔ .collect ∈ keeper.acts
  spared : keeper.collected = false → .kill ∉ keeper.acts
  once : keeper.acts.count .kill ≤ 1
  inTime : keeper.acts.Pairwise fun earlier later => earlier = .collect → later ≠ .kill

namespace Keeper

theorem sound_fresh : fresh.Sound := by
  constructor <;> simp [fresh]

variable {keeper : Keeper}

theorem Sound.see (sound : keeper.Sound) : keeper.see.Sound := by
  constructor
  · simp [Keeper.see]
  · simp [Keeper.see]
  · simpa [Keeper.see, List.count_append] using sound.once
  · refine List.pairwise_append.mpr ⟨sound.inTime, List.pairwise_singleton _ _, ?_⟩
    simp

theorem Sound.kill (sound : keeper.Sound) (uncollected : keeper.collected = false) :
    keeper.kill.Sound := by
  have spared : .kill ∉ keeper.acts := sound.spared uncollected
  have present : .collect ∉ keeper.acts := by
    rw [← sound.collected, uncollected]
    exact Bool.false_ne_true
  constructor
  · simp [Keeper.kill]
  · simp [Keeper.kill]
  · simp [Keeper.kill, List.count_append, List.count_eq_zero_of_not_mem spared]
  · refine List.pairwise_append.mpr ⟨sound.inTime, by simp, ?_⟩
    intro earlier before later _ isCollect
    exact absurd (isCollect ▸ before) present

theorem Sound.settle (sound : keeper.Sound) (uncollected : keeper.collected = false)
    (ending : Ending) : (keeper.settle ending).Sound := by
  cases ending with
  | exited status => exact sound.see
  | waitFailed cause => exact sound
  | cancelled => exact sound.kill uncollected
  | timedOut => exact sound.kill uncollected

theorem Sound.release (sound : keeper.Sound) : keeper.release.Sound := by
  unfold Keeper.release
  by_cases collected : keeper.collected = true
  · rw [if_pos collected]
    exact sound
  · rw [if_neg collected]
    exact sound.kill (Bool.eq_false_iff.mpr collected)

end Keeper

/-! Which look decides. -/

theorem wait_eq_findSome? (deadline : Option Instant) (keeper : Keeper)
    (looks : List Observation) :
    wait deadline keeper looks = (looks.findSome? (judge deadline)).map fun ending =>
      (ending, (keeper.settle ending).release) := by
  induction looks with
  | nil => rfl
  | cons first rest ih =>
      cases judged : judge deadline first with
      | none => simp only [wait, judged, List.findSome?_cons, ih]
      | some ending => simp only [wait, judged, List.findSome?_cons, Option.map_some]

theorem wait_eq_some_iff (deadline : Option Instant) (keeper final : Keeper) (ending : Ending)
    (looks : List Observation) :
    wait deadline keeper looks = some (ending, final) ↔
      (∃ before look after, looks = before ++ look :: after ∧ judge deadline look = some ending ∧
        ∀ earlier ∈ before, judge deadline earlier = none) ∧
      final = (keeper.settle ending).release := by
  rw [wait_eq_findSome?, ← List.findSome?_eq_some_iff, Option.map_eq_some_iff]
  constructor
  · rintro ⟨found, first, same⟩
    obtain ⟨rfl, rfl⟩ := Prod.mk.inj same
    exact ⟨first, rfl⟩
  · rintro ⟨first, rfl⟩
    exact ⟨ending, first, rfl⟩

theorem wait_eq_none_iff (deadline : Option Instant) (keeper : Keeper)
    (looks : List Observation) :
    wait deadline keeper looks = none ↔ ∀ look ∈ looks, judge deadline look = none := by
  rw [wait_eq_findSome?, Option.map_eq_none_iff, List.findSome?_eq_none_iff]

/-- However a wait ends, its keeper has collected the child. -/
theorem sound_of_wait {deadline : Option Instant} {keeper final : Keeper} {ending : Ending}
    {looks : List Observation} (sound : keeper.Sound) (uncollected : keeper.collected = false)
    (ended : wait deadline keeper looks = some (ending, final)) :
    final.Sound ∧ final.collected = true := by
  obtain ⟨-, rfl⟩ := (wait_eq_some_iff _ _ _ _ _).mp ended
  exact ⟨(sound.settle uncollected ending).release, Keeper.collected_release _⟩

/-! What the look that decides makes of the launch. -/

/-- What a launch answers for a look, rule by rule. A look that no rule is for settles nothing. -/
inductive Verdict (default : Duration) (limits : Limits) (start : Instant) (errorText : String)
    (duration : Duration) (look : Observation) : Except ProcessError Output → Prop
  | succeeded : look.child = .exited (.code 0) →
      Verdict default limits start errorText duration look (.ok ⟨0, errorText, duration⟩)
  | failed {code : Int} : look.child = .exited (.code code) → code ≠ 0 →
      Verdict default limits start errorText duration look (.error (.nonZeroExit code errorText))
  | signalled : look.child = .exited .signalled →
      Verdict default limits start errorText duration look (.error (.nonZeroExit (-1) errorText))
  | unknown {cause : HostError} : look.child = .unknown cause →
      Verdict default limits start errorText duration look (.error (.waitFailed cause))
  | cancelled : look.child = .running → look.cancelled = true →
      Verdict default limits start errorText duration look (.error .cancelled)
  | timedOut {deadline : Instant} : look.child = .running → look.cancelled = false →
      start.after? (effectiveTimeout default limits) = some deadline →
      deadline.nanoseconds ≤ look.now.nanoseconds →
      Verdict default limits start errorText duration look
        (.error (.timeout (effectiveTimeout default limits).seconds))

theorem isReached_iff (deadline : Option Instant) (now : Instant) :
    isReached deadline now = true ↔
      ∃ point, deadline = some point ∧ point.nanoseconds ≤ now.nanoseconds := by
  cases deadline <;> simp [isReached]

section

variable {default : Duration} {limits : Limits} {start : Instant} {errorText : String}
  {duration : Duration} {look : Observation}

theorem verdict_of_judge {ending : Ending}
    (settles : judge (start.after? (effectiveTimeout default limits)) look = some ending) :
    Verdict default limits start errorText duration look
      (answer (effectiveTimeout default limits) errorText duration ending) := by
  unfold judge at settles
  split at settles
  · next status exited =>
      obtain rfl := Option.some.inj settles
      cases status with
      | signalled => exact .signalled exited
      | code value =>
          by_cases zero : value = 0
          · subst zero
            exact .succeeded exited
          · simp only [answer, if_neg zero]
            exact .failed exited zero
  · next cause unknown =>
      obtain rfl := Option.some.inj settles
      exact .unknown unknown
  · next running =>
      split at settles
      · next cancelled =>
          obtain rfl := Option.some.inj settles
          exact .cancelled running cancelled
      · next notCancelled =>
          split at settles
          · next reached =>
              obtain rfl := Option.some.inj settles
              obtain ⟨deadline, set, passed⟩ := (isReached_iff _ look.now).mp reached
              exact .timedOut running (Bool.eq_false_iff.mpr notCancelled) set passed
          · cases settles

theorem judge_ne_none_of_verdict {result : Except ProcessError Output}
    (verdict : Verdict default limits start errorText duration look result) :
    judge (start.after? (effectiveTimeout default limits)) look ≠ none := by
  cases verdict with
  | succeeded exited => simp [judge, exited]
  | failed exited _ => simp [judge, exited]
  | signalled exited => simp [judge, exited]
  | unknown unknown => simp [judge, unknown]
  | cancelled running cancelled => simp [judge, running, cancelled]
  | timedOut running notCancelled set passed =>
      have reached := (isReached_iff _ look.now).mpr ⟨_, set, passed⟩
      simp [judge, running, notCancelled, reached]

end

theorem judge_eq_none_iff (default : Duration) (limits : Limits) (start : Instant)
    (errorText : String) (duration : Duration) (look : Observation) :
    judge (start.after? (effectiveTimeout default limits)) look = none ↔
      ∀ result, ¬ Verdict default limits start errorText duration look result := by
  constructor
  · exact fun unsettled _ verdict => judge_ne_none_of_verdict verdict unsettled
  · intro without
    cases judged : judge (start.after? (effectiveTimeout default limits)) look with
    | none => rfl
    | some ending => exact absurd (verdict_of_judge judged) (without _)

/-! Launches. -/

structure Attended (default : Duration) (limits : Limits) (start : Instant) (errorText : String)
    (duration : Duration) (looks : List Observation) (result : Except ProcessError Output)
    (keeper : Keeper) : Prop where
  collected : .collect ∈ keeper.acts
  killedOnce : keeper.acts.count .kill ≤ 1
  killedInTime : keeper.acts.Pairwise fun earlier later => earlier = .collect → later ≠ .kill
  decided : ∃ before look after, looks = before ++ look :: after ∧
    (∀ earlier ∈ before, ∀ other,
      ¬ Verdict default limits start errorText duration earlier other) ∧
    Verdict default limits start errorText duration look result
  success : ∀ output, result = .ok output →
    output.exitCode = 0 ∧ ∃ look ∈ looks, look.child = .exited (.code 0)
  failure : ∀ code text, result = .error (.nonZeroExit code text) →
    ∃ look ∈ looks, look.child = .exited (.code code) ∧ code ≠ 0 ∨
      look.child = .exited .signalled ∧ code = -1
  endless : Instant.clockEnd ≤
      start.nanoseconds + (effectiveTimeout default limits).totalNanoseconds →
    ∀ seconds, result ≠ .error (.timeout seconds)

theorem after?_eq_none_iff (start : Instant) (span : Duration) :
    start.after? span = none ↔
      Instant.clockEnd ≤ start.nanoseconds + span.totalNanoseconds := by
  simp [Instant.after?]

theorem attended_of_supervise {default : Duration} {limits : Limits} {start : Instant}
    {errorText : String} {duration : Duration} {looks : List Observation}
    {result : Except ProcessError Output} {keeper : Keeper}
    (returned : supervise default limits start errorText duration looks = some (result, keeper)) :
    Attended default limits start errorText duration looks result keeper := by
  obtain ⟨⟨ending, final⟩, ended, same⟩ := Option.map_eq_some_iff.mp returned
  obtain ⟨rfl, rfl⟩ := Prod.mk.inj same
  obtain ⟨sound, collected⟩ := sound_of_wait Keeper.sound_fresh rfl ended
  obtain ⟨⟨before, look, after, rfl, settles, unsettled⟩, -⟩ :=
    (wait_eq_some_iff _ _ _ _ _).mp ended
  have verdict : Verdict default limits start errorText duration look _ := verdict_of_judge settles
  have present : look ∈ before ++ look :: after := by simp
  constructor
  · exact sound.collected.mp collected
  · exact sound.once
  · exact sound.inTime
  · refine ⟨before, look, after, rfl, ?_, verdict⟩
    intro earlier member
    exact (judge_eq_none_iff _ _ _ _ _ _).mp (unsettled earlier member)
  · intro output succeeds
    rw [succeeds] at verdict
    cases verdict with
    | succeeded exited => exact ⟨rfl, look, present, exited⟩
  · intro code text fails
    rw [fails] at verdict
    cases verdict with
    | failed exited nonzero => exact ⟨look, present, Or.inl ⟨exited, nonzero⟩⟩
    | signalled exited => exact ⟨look, present, Or.inr ⟨exited, rfl⟩⟩
  · intro overflows seconds late
    rw [late] at verdict
    cases verdict with
    | timedOut _ _ set _ =>
        rw [(after?_eq_none_iff start _).mpr overflows] at set
        cases set

/-- A launch returns at the first look that a rule is for, with the answer of that rule, and leaves
no child behind; while no rule is for any look it goes on. -/
theorem supervise_attends (default : Duration) (limits : Limits) (start : Instant)
    (errorText : String) (duration : Duration) (looks : List Observation) :
    match supervise default limits start errorText duration looks with
    | some (result, keeper) =>
        Attended default limits start errorText duration looks result keeper
    | none => ∀ look ∈ looks, ∀ result,
        ¬ Verdict default limits start errorText duration look result := by
  split
  · next result keeper returned => exact attended_of_supervise returned
  · next waits =>
      have unsettled := (wait_eq_none_iff _ _ _).mp (Option.map_eq_none_iff.mp waits)
      intro look member
      exact (judge_eq_none_iff _ _ _ _ _ _).mp (unsettled look member)

/-- A wish to cancel counts before the deadline that has come with it. -/
example : supervise (.ofSeconds 300) ⟨some ⟨0, 200000000⟩, none⟩ ⟨7⟩ "" ⟨0, 0⟩
    [⟨.running, false, ⟨7⟩⟩, ⟨.running, true, ⟨200000007⟩⟩] =
      some (.error .cancelled, ⟨[.kill, .collect], true⟩) := by
  decide +kernel

/-! The launcher of the host supervises the looks that it takes. -/

/-- Time does not go back, and a wish to cancel stays. -/
def Orderly (looks : List Observation) : Prop :=
  looks.Pairwise fun earlier later => earlier.now.nanoseconds ≤ later.now.nanoseconds ∧
    (earlier.cancelled = true → later.cancelled = true)

end ArtifactTools.Supervision

namespace ArtifactTools.SystemLauncher

open Supervision

theorem orderly_looks (ending : Option (ExitStatus × Nat)) (stop : Option Nat) (limits : Limits) :
    Orderly ((looks ending stop).map (observe ending limits)) := by
  have ascending : (looks ending stop).Pairwise (· ≤ ·) := List.pairwise_mergeSort' (· ≤ ·) _
  refine List.pairwise_map.mpr (ascending.imp ?_)
  intro earlier later before
  have passed : earlier * pollMilliseconds * 1000000 ≤ later * pollMilliseconds * 1000000 :=
    Nat.mul_le_mul_right _ (Nat.mul_le_mul_right _ before)
  refine ⟨passed, ?_⟩
  intro cancelled
  obtain ⟨span, set, elapsed⟩ := (Option.any_eq_true _ _).mp cancelled
  refine (Option.any_eq_true _ _).mpr ⟨span, set, ?_⟩
  exact decide_eq_true ((of_decide_eq_true elapsed).trans passed)

theorem conclude_supervised (default : Duration) (host : Host) (limits : Limits)
    (stop : Option Nat) (ended : Shell.Turns.Schedule) :
    ∃ errorText duration looks, Orderly looks ∧
      (conclude default host limits stop ended).1 =
        match supervise default limits (.ofMilliseconds 0) errorText duration looks with
        | some (result, _) => result
        | none => .error (.waitFailed (.other "the tool does not end")) := by
  rcases left : remains ended with ⟨errorText, duration, files⟩
  refine ⟨errorText, duration, _, orderly_looks (ending? ended) stop limits, ?_⟩
  simp only [conclude, left]
  split
  · next supervised => rw [supervised]
  · next supervised => rw [supervised]

theorem launch_supervised {default : Duration} {host : Host} {request : Launch}
    {invocation : Invocation} {directory : Location}
    (resolved : resolve host request.template = .ok (invocation, directory)) :
    ∃ errorText duration looks, Orderly looks ∧
      (launch default host request).1 =
        match supervise default request.limits (.ofMilliseconds 0) errorText duration looks with
        | some (result, _) => result
        | none => .error (.waitFailed (.other "the tool does not end")) := by
  rw [launch, resolved]
  exact conclude_supervised default host request.limits _ _

end ArtifactTools.SystemLauncher
