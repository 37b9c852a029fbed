import DeskUnlock.Unlock.UnlockLinks

/-!
# The replay cache over runs

Each entry of the peer map has a cache of the nonces it accepted last.  A task
asks for its nonce and inserts it under one lock, so that the cache of an
entry changes only with a nonce that it did not hold.
-/

namespace DeskUnlock.Unlock

open Texts Runs List Orchestrator
open Pairing (Pubkey)
open Recovery (BondKey)
open Rpc (Response)

/-- The nonces accepted last, as many as a cache holds. -/
def recent (accepted : List Nonce) : List Nonce := accepted.drop (accepted.length - NONCE_LRU_CAP)

/-- A nonce comes again only when so many others were accepted in between. -/
def Spaced (accepted : List Nonce) : Prop :=
  ∀ earlier later nonce, accepted[earlier]? = some nonce → accepted[later]? = some nonce →
    earlier < later → earlier + NONCE_LRU_CAP < later

theorem NonceCache.insert_recent {cache : NonceCache} {accepted : List Nonce}
    (holds : cache.nonces = recent accepted) {nonce : Nonce} :
    (cache.insert nonce).nonces = recent (accepted ++ [nonce]) := by
  have whole : cache.nonces ++ [nonce] =
      (accepted ++ [nonce]).drop (accepted.length - NONCE_LRU_CAP) := by
    rw [holds, recent, drop_append_of_le_length (Nat.sub_le _ _)]
  have length : (accepted ++ [nonce]).length = accepted.length + 1 := by simp
  rw [insert, recent, whole, length_drop, length]
  by_cases full : NONCE_LRU_CAP ≤ accepted.length
  · rw [if_pos (by omega), drop_drop, Nat.sub_add_comm full]
  · have empty : accepted.length - NONCE_LRU_CAP = accepted.length + 1 - NONCE_LRU_CAP := by omega
    rw [if_neg (by omega), empty]

theorem Spaced.snoc {accepted : List Nonce} (spaced : Spaced accepted) {nonce : Nonce}
    (fresh : nonce ∉ recent accepted) : Spaced (accepted ++ [nonce]) := by
  intro earlier later other first second less
  have bound := (List.getElem?_eq_some_iff.mp second).1
  rw [length_append, length_singleton] at bound
  rw [getElem?_append_left (by omega)] at first
  by_cases last : later = accepted.length
  · -- an earlier acceptance of the new nonce lies before the recent ones
    subst last
    rw [getElem?_concat_length] at second
    cases second
    by_contra _
    have inside : (recent accepted)[earlier - (accepted.length - NONCE_LRU_CAP)]? = some nonce := by
      rw [recent, getElem?_drop, ← first]
      congr 1
      omega
    exact fresh (mem_of_getElem? inside)
  · rw [getElem?_append_left (by omega)] at second
    exact spaced _ _ _ first second less

/-- The cache of an entry that has accepted these nonces. -/
structure NonceCache.Recalls (cache : NonceCache) (accepted : List Nonce) : Prop where
  holds : cache.nonces = recent accepted
  distinct : cache.nonces.Nodup
  spaced : Spaced accepted

theorem NonceCache.Recalls.insert {cache : NonceCache} {accepted : List Nonce}
    (recalls : cache.Recalls accepted) {nonce : Nonce} (fresh : cache.contains nonce = false) :
    (cache.insert nonce).Recalls (accepted ++ [nonce]) := by
  have absent : nonce ∉ cache.nonces := fun mem => by
    rw [contains, any_eq_false] at fresh
    exact fresh _ mem (decide_eq_true rfl)
  refine ⟨insert_recent recalls.holds, ?_, recalls.spaced.snoc (recalls.holds ▸ absent)⟩
  have longer : (cache.nonces ++ [nonce]).Nodup := by simpa using recalls.distinct.concat absent
  unfold NonceCache.insert
  dsimp only
  split_ifs
  · exact longer.drop
  · exact longer

/-- A system, with the nonces that one entry has accepted. -/
structure AcceptingSystem where
  system : UnlockSystem
  accepted : List Nonce

section

variable {SigningKey : Type} (crypto : Crypto SigningKey)
  (cfg : ServeConfig) (codecs : Codecs) (debug : Response → Text) (pos : Nat)

/-- The question that the event answers. -/
def UnlockSystem.asked? (system : UnlockSystem) : UnlockSystem.Event → Option DaemonQuestion
  | .taskAnswered i _ _ => do
    let sess ← system.sessions[i]?
    let task ← sess.task
    if task.running then task.program.question? else none
  | _ => none

/-- Keep the nonces that the cache has accepted. -/
def AcceptingSystem.step (accepting : AcceptingSystem) (ev : UnlockSystem.Event) :
    AcceptingSystem where
  system := accepting.system.step crypto cfg codecs debug ev
  accepted :=
    accepting.accepted ++
      (accepting.system.asked? ev).toList.flatMap (accepting.system.orchestrator.accepts pos)

/-- The entry is there, and its cache recalls what it has accepted. -/
def AcceptingSystem.Recalls (peerId : Text) (accepting : AcceptingSystem) : Prop :=
  ∃ entry, accepting.system.orchestrator.entries[pos]? = some (peerId, entry) ∧
    entry.nonceCache.Recalls accepting.accepted

variable {pos} {peerId : Text}

theorem UnlockSystem.step_entry {system : UnlockSystem} {entry : PeerEntry}
    (standing : system.orchestrator.entries[pos]? = some (peerId, entry))
    (ev : UnlockSystem.Event) :
    ∃ changed,
      (system.step crypto cfg codecs debug ev).orchestrator.entries[pos]? = some (peerId, changed) ∧
        changed.nonceCache =
          ((system.asked? ev).toList.flatMap
            (system.orchestrator.accepts pos)).foldl NonceCache.insert entry.nonceCache := by
  cases ev with
  | clientStarted kind | clientAnswered i choice through | peerRemoved named =>
    exact ⟨entry, standing, rfl⟩
  | peerAdded named key phonePubkey =>
    refine ⟨entry, ?_, rfl⟩
    simp only [step, addPeer]
    rw [getElem?_append_left (List.getElem?_eq_some_iff.mp standing).1, standing]
  | taskDropped i =>
    refine ⟨_, update_entry standing _, ?_⟩
    split_ifs <;> rfl
  | taskAnswered i choice through =>
    cases found : system.sessions[i]? with
    | none => exact ⟨entry, by simp [step, found, standing], by simp [asked?, found]⟩
    | some sess =>
      simp only [step, asked?, found, Option.bind_eq_bind, Option.bind_some, Session.daemonStep]
      cases sess.task with
      | none => exact ⟨entry, standing, rfl⟩
      | some task =>
        obtain ⟨prog, past, running⟩ := task
        cases running with
        | false => exact ⟨entry, standing, rfl⟩
        | true =>
          cases prog with
          | done res => exact ⟨entry, standing, rfl⟩
          | ask question next =>
            dsimp only
            cases answered : sess.answerDaemon system.orchestrator i through question
                (choice _) with
            | none =>
              have quiet : system.orchestrator.accepts pos question = [] := by
                cases question with
                | checkNonce other nonce =>
                  simp only [Session.answerDaemon, answer] at answered
                  split_ifs at answered <;> cases answered
                | _ => rfl
              exact ⟨entry, standing, by simp [Dialogues.Dialogue.question?, quiet]⟩
            | some res =>
              obtain ⟨_, asked⟩ := Session.answerDaemon_orchestrator answered
              obtain ⟨change, changes, entries⟩ := answer_entries asked
              refine ⟨change pos entry, ?_, ?_⟩
              · dsimp only
                rw [entries]
                exact update_entry standing change
              · simp [Dialogues.Dialogue.question?, (changes _ _).2]

theorem AcceptingSystem.Recalls.step {accepting : AcceptingSystem}
    (recalls : accepting.Recalls pos peerId) (ev : UnlockSystem.Event) :
    (accepting.step crypto cfg codecs debug pos ev).Recalls pos peerId := by
  obtain ⟨entry, standing, recalled⟩ := recalls
  obtain ⟨changed, found, cache⟩ := accepting.system.step_entry _ _ _ _ standing _
  refine ⟨changed, found, ?_⟩
  rw [cache, AcceptingSystem.step]
  cases accepting.system.asked? ev with
  | none => simpa using recalled
  | some question =>
    cases question with
    | checkNonce other nonce =>
      simp only [Option.toList_some, flatMap_singleton, Orchestrator.accepts]
      split_ifs with fresh
      · obtain ⟨rfl, unknown⟩ := fresh
        rw [hasNonce, standing] at unknown
        exact recalled.insert unknown
      · simpa using recalled
    | _ => simpa [Orchestrator.accepts] using recalled

/-- From its insertion on, an entry holds the nonces it accepted last, and accepts none of
them again. -/
theorem replayCache_recalls (orch : Orchestrator) (sessions : List Session)
    (peerId : Text) (key : BondKey) (phonePubkey : Pubkey) (events : List UnlockSystem.Event) :
    let pos := orch.entries.length
    (run (AcceptingSystem.step crypto cfg codecs debug pos)
      ⟨⟨orch.addPeer peerId key phonePubkey, sessions⟩, []⟩ events).Recalls pos peerId := by
  intro pos
  apply run_invariant fun _ ev recalls => recalls.step _ _ _ _ _
  refine ⟨_, getElem?_concat_length, rfl, nodup_nil, ?_⟩
  exact fun _ _ _ first => nomatch first

end

end DeskUnlock.Unlock
