import DeskUnlock.Daemon.PairAgent

/-!
# What becomes of the Pairable flag

`acquire_pair_agent_with` reads the flag before it makes the adapter pairable,
and takes a read that fails for `false`.  If this read fails while the flag is
set, and the change is made all the same, the flag is cleared in the end.  If
no read verifies the change, the flag stays set although the call fails.
-/

namespace DeskUnlock.Daemon

open Texts

variable {Adapter Handle Value : Type}

/-- `post` holds of what the program returns, and of the adapter after it. -/
def Leads (post : Value → Adapter → Prop) (prog : StateM Adapter Value) (adapter : Adapter) :
    Prop :=
  post (prog.run adapter).1 (prog.run adapter).2

section

variable {Result : Type} {spec : Value → Adapter → Prop} {post : Result → Adapter → Prop}
  {prog : StateM Adapter Value} {rest : Value → StateM Adapter Result} {adapter : Adapter}

theorem Leads.bind (leads : Leads spec prog adapter)
    (next : ∀ value left, spec value left → Leads post (rest value) left) :
    Leads post (prog >>= rest) adapter :=
  next _ _ leads

theorem Leads.bind_iff {told : Prop} (leads : Leads spec prog adapter)
    (next : ∀ value left, spec value left → (Leads post (rest value) left ↔ told)) :
    Leads post (prog >>= rest) adapter ↔ told :=
  next _ _ leads

end

section

variable (control : PairableControl Adapter) (flag : Adapter → Bool)

/-- Writes take effect; a read fails or returns the flag. -/
structure Effective : Prop where
  read : ∀ adapter,
    Leads (fun reply left => flag left = flag adapter ∧ ∀ value, reply = .ok value →
      value = flag adapter) control.pairable adapter
  written : ∀ value adapter,
    Leads (fun _ left => flag left = value) (control.setPairable value) adapter

def releaseTimes : Nat → PairAgentSession Handle → StateM Adapter (PairAgentSession Handle)
  | 0, sess => return sess
  | releases + 1, sess => do releaseTimes releases (← releasePairAgentWith control sess)

variable (sess : PairAgentSession Handle) (adapter : Adapter)

/-- The agent is not held, and the flag has this value. -/
def Restored (value : Bool) (after : PairAgentSession Handle) (left : Adapter) : Prop :=
  after.isHeld = false ∧ flag left = value

/-- A call that fails, or succeeds and is followed by releases, leaves the flag as it was. -/
def Restores (reg : Except Text Handle) : Prop :=
  Leads
    (fun reply left =>
      match reply.1 with
      | .error _ => Restored flag (flag adapter) reply.2 left
      | .ok _ => ∀ releases,
        Leads (Restored flag (flag adapter)) (releaseTimes control (releases + 1) reply.2) left)
    (acquirePairAgentWith control sess reg) adapter

/-- Whether the next read returns. -/
def reads : Bool := (control.pairable.run adapter).1.isOk

/-- The adapter after its next read. -/
def afterRead : Adapter := (control.pairable.run adapter).2

/-- Whether one of so many reads returns, each of which follows a write. -/
def verifies : Nat → Adapter → Bool
  | 0, _ => false
  | retries + 1, adapter =>
    let written := ((control.setPairable true).run adapter).2
    reads control written || verifies retries (afterRead control written)

/--
The reads on which the flag depends.  If it is set, the first two do not both
fail where one of those after a write returns; if it is clear, one of those
after a write returns.
An agent that is held already has nothing else to restore.
-/
def Recorded : Prop :=
  if sess.isHeld then (sess.restore.bind (·.previousPairable)).getD (flag adapter) = flag adapter
  else
    let second := afterRead control adapter
    let verified := verifies control ADAPTER_MODE_RETRIES (afterRead control second) = true
    (flag adapter = true → verified → reads control adapter = true ∨ reads control second = true) ∧
      (flag adapter = false → verified)

variable {control flag} (effective : Effective control flag)
include effective

/-- A read that fails is taken for `false`. -/
theorem leads_isPairable :
    Leads
      (fun found left =>
        left = afterRead control adapter ∧
          flag left = flag adapter ∧ found = (reads control adapter && flag adapter))
      control.isPairable adapter := by
  obtain ⟨kept, read⟩ := effective.read adapter
  refine ⟨rfl, kept, ?_⟩
  change (control.pairable.run adapter).1.toOption.getD false = _
  unfold reads
  cases reply : (control.pairable.run adapter).1 with
  | error error => rfl
  | ok value => exact read _ reply

/-- The loop reports a change if and only if one of its reads returns. -/
theorem leads_setUntilPairable {retries : Nat} (set : flag adapter = true ∨ 0 < retries) :
    Leads
      (fun reply left =>
        flag left = true ∧ reply ≠ .ok false ∧
          (reply = .ok true ↔ verifies control retries adapter = true))
      (setUntilPairable control retries) adapter := by
  induction retries generalizing adapter with
  | zero =>
    refine ⟨set.resolve_right (lt_irrefl 0), nofun, ?_⟩
    exact iff_of_false nofun nofun
  | succ retries induction =>
    have set : flag ((control.setPairable true).run adapter).2 = true := effective.written _ _
    have started :
        Leads (fun _ left => left = ((control.setPairable true).run adapter).2)
          (control.setPairable true) adapter :=
      rfl
    refine started.bind ?_
    rintro _ _ rfl
    refine (leads_isPairable _ effective).bind ?_
    rintro _ _ ⟨rfl, kept, rfl⟩
    rw [set, Bool.and_true]
    dsimp only [verifies]
    cases reads control ((control.setPairable true).run adapter).2 with
    | true => exact ⟨kept.trans set, nofun, iff_of_true rfl rfl⟩
    | false => exact induction _ (.inl (kept.trans set))

/-- Whatever becomes of the call, the adapter is pairable after it. -/
theorem leads_ensurePairable :
    Leads
      (fun reply left =>
        flag left = true ∧
          (reply = .ok false ↔ (reads control adapter && flag adapter) = true) ∧
          (reply = .ok true ↔
            (reads control adapter && flag adapter) = false ∧
              verifies control ADAPTER_MODE_RETRIES (afterRead control adapter) = true))
      (ensurePairable control) adapter := by
  refine (leads_isPairable _ effective).bind ?_
  rintro _ left ⟨rfl, kept, rfl⟩
  cases found : reads control adapter && flag adapter with
  | true =>
    refine ⟨kept.trans (Bool.and_eq_true_iff.mp found).2, iff_of_true rfl rfl, ?_⟩
    exact iff_of_false nofun nofun
  | false =>
    obtain ⟨set, changed, verified⟩ :=
      leads_setUntilPairable (afterRead control adapter) effective
        (.inr (by decide : 0 < ADAPTER_MODE_RETRIES))
    exact ⟨set, iff_of_false changed nofun, verified.trans (and_iff_right rfl).symm⟩

omit effective in
theorem releaseTimes_free (free : sess.handle = none) {releases : Nat} :
    releaseTimes control releases sess = (return sess) := by
  induction releases with
  | zero => rfl
  | succ releases induction =>
    have ended : sess.endSession = (none, sess) := by simp [PairAgentSession.endSession, free]
    rw [releaseTimes, releasePairAgentWith, ended]
    exact induction

/-- The first release restores what was recorded, and the others do nothing. -/
theorem leads_releases (held : sess.isHeld = true) (value : Bool) (releases : Nat) :
    Leads (Restored flag value) (releaseTimes control (releases + 1) sess) adapter ↔
      (sess.restore.bind (·.previousPairable)).getD (flag adapter) = value := by
  have rest : ∀ left, Leads (Restored flag value)
      (releaseTimes control releases (⟨none, none⟩ : PairAgentSession Handle)) left ↔
        flag left = value := by
    intro left
    rw [releaseTimes_free _ rfl]
    exact and_iff_right rfl
  obtain ⟨_ | handle, restore⟩ := sess
  · cases held
  · obtain _ | ⟨_ | previous⟩ := restore
    · exact rest _
    · exact rest _
    · exact (rest _).trans (Eq.congr_left (effective.written _ _))

/--
The flag is restored in every run of the calls, whatever the registration
returns, if and only if the reads on which it depends return.
-/
theorem restores_iff_recorded (reg : Except Text Handle) :
    Restores control flag sess adapter reg ↔ Recorded control flag sess adapter := by
  unfold Restores Recorded acquirePairAgentWith
  split_ifs with held
  · exact (forall_congr' (leads_releases _ _ effective held _)).trans (forall_const _)
  · have free : sess.isHeld = false := by simpa using held
    dsimp only
    refine (leads_isPairable _ effective).bind_iff ?_
    rintro _ _ ⟨rfl, kept, rfl⟩
    refine (leads_ensurePairable _ effective).bind_iff ?_
    rw [kept]
    generalize verifies control _ _ = verified
    generalize reads control (afterRead control adapter) = second
    generalize reads control adapter = first
    generalize flag adapter = before at *
    rintro (error | changed) ready ⟨set, unchanged, rewritten⟩
    · change sess.isHeld = false ∧ flag ready = before ↔ _
      rw [set, and_iff_right free]
      revert unchanged rewritten
      cases first <;> cases second <;> cases verified <;> cases before <;> simp
    · have restored :
          (if changed then first && before else true) = before ↔
            (before = true → verified = true → first = true ∨ second = true) ∧
              (before = false → verified = true) := by
        revert unchanged rewritten
        cases changed <;> cases first <;> cases second <;> cases verified <;> cases before <;> simp
      refine Iff.trans ?_ restored
      cases reg with
      | error error =>
        cases changed with
        | false =>
          change sess.isHeld = false ∧ flag ready = before ↔ _
          simp [free, set]
        | true =>
          have written : flag _ = (first && before) := effective.written _ ready
          exact (and_iff_right free).trans (Eq.congr_left written)
      | ok handle =>
        have released :=
          leads_releases (sess.begin handle (.fromPairable changed (first && before))) ready
            effective rfl before
        refine (forall_congr' released).trans ?_
        cases changed with
        | false => simp [PairAgentSession.begin, PairAgentRestore.fromPairable, set]
        | true => simp [PairAgentSession.begin, PairAgentRestore.fromPairable]

end

/-- An adapter with its flag, and which of its next reads succeed. -/
def scripted : PairableControl (Bool × List Bool) where
  pairable := fun (flag, reads) =>
    (if reads.headD true then .ok flag else .error [], flag, reads.tail)
  setPairable value := fun (_, reads) => (.ok (), value, reads)

theorem scripted_effective : Effective scripted Prod.fst where
  read := by
    rintro ⟨flag, reads⟩
    refine ⟨rfl, fun value same => ?_⟩
    change (if reads.headD true then .ok flag else .error []) = Except.ok value at same
    split_ifs at same
    exact (Except.ok.inj same).symm
  written _ _ := rfl

/-- One failing read, the first that follows a write, does no harm. -/
theorem late_failure_restores : Restores scripted Prod.fst (.default : PairAgentSession Unit)
    (false, [true, true, false]) (.ok ()) :=
  (restores_iff_recorded .default _ scripted_effective (.ok _)).mpr ⟨nofun, fun _ => rfl⟩

/--
Two failing reads clear the flag when the registration fails, and eleven
leave it set when the change is not verified.
-/
theorem failing_reads_lose_flag :
    Effective scripted Prod.fst ∧
      ¬ Restores scripted Prod.fst (.default : PairAgentSession Unit) (true, [false, false])
          (.error []) ∧
      ¬ Restores scripted Prod.fst (.default : PairAgentSession Unit)
          (false, .replicate 12 false) (.ok ()) := by
  refine ⟨scripted_effective, ?_, ?_⟩
  · rintro ⟨-, kept⟩
    cases kept
  · rintro ⟨-, kept⟩
    cases kept

end DeskUnlock.Daemon
