import Misscomputer.Edge.Authorization
import Misscomputer.Lib.Machine
import Misscomputer.Lib.Reservation

set_option relaxedAutoImplicit false
set_option autoImplicit false

/-!
# Edge authorizations are honoured once

A miner reads its clock, verifies the edge authorization of a request against that reading, and later claims the
nonce in a cache. The cache is swept only by a claim that finds it full, and with the reading of that claim, which
may be later or earlier than those of the calls in flight.

## Main definitions

* `Edge.EdgeReplayCache`, `Edge.EdgeReplayCache.claim` — the cache.
* `Edge.verifyEdgeRequest` — a call up to its claim.
* `Edge.step` — the interleaving of any number of calls on one agent.
* `Edge.Timely` — a sweep comes before the claimed nonces of the calls in flight expire.

## Main results

* `Edge.guarded_run` — the invariant: an honoured authorization is in the cache, or it is no longer fresh.
* `Edge.honoured_once` — runs of timely sweeps honour no authorization twice, and refused claims leave the live
  entries alone.
* `Edge.honoured_twice` — a run that honours an authorization twice.

## References

* `pkg/miner/runtime_ingress.go` (`edgeReplayCache`, `verifyEdgeRequest`, `readRuntimeRequestBody`)
-/

namespace Misscomputer

namespace Edge

/-! ## The cache -/

/-- `edgeReplayCapacity`. -/
def edgeReplayCapacity : ℕ := 2 ^ 18

/-- `edgeReplayCache`: nonces with the times at which they expire. -/
structure EdgeReplayCache where
  entries : List (String × ℤ)
  nodup : (entries.map Prod.fst).Nodup

namespace EdgeReplayCache

/-- Without entries. -/
def empty : EdgeReplayCache := ⟨[], List.nodup_nil⟩

/-- The cache without the entries that have expired. -/
def sweep (c : EdgeReplayCache) (now : ℤ) : EdgeReplayCache :=
  ⟨Reservation.purge now c.entries, c.nodup.sublist (List.filter_sublist.map Prod.fst)⟩

/-- The cache with an entry for a nonce, in place of the one it may have. -/
def set (c : EdgeReplayCache) (nonce : String) (expires : ℤ) : EdgeReplayCache where
  entries := (nonce, expires) :: c.entries.filter fun entry => entry.1 ≠ nonce
  nodup := by
    rw [List.map_cons, List.nodup_cons]
    refine ⟨?_, c.nodup.sublist (List.filter_sublist.map Prod.fst)⟩
    simp

/-- The cache in which a claim looks for its nonce. -/
def swept (c : EdgeReplayCache) (now : ℤ) : EdgeReplayCache :=
  if edgeReplayCapacity ≤ c.entries.length then c.sweep now else c

/-- When the entry of an authorization expires. -/
def expires (a : EdgeAuthorization) : ℤ := a.timestamp + (edgeRequestFreshness + edgeRequestFutureSkew)

/-- `edgeReplayCache.claim`. -/
def claim (c : EdgeReplayCache) (a : EdgeAuthorization) (now : ℤ) : EdgeReplayCache × Except String Unit :=
  if ∃ entry ∈ (c.swept now).entries, entry.1 = a.nonce ∧ now < entry.2 then
    (c.swept now, .error "edge authorization nonce replayed")
  else if edgeReplayCapacity ≤ (c.swept now).entries.length then
    (c.swept now, .error "edge replay cache is full")
  else ((c.swept now).set a.nonce (expires a), .ok ())

variable {c : EdgeReplayCache} {a : EdgeAuthorization} {now : ℤ} {nonce : String} {deadline : ℤ}

lemma mem_set {entry : String × ℤ} :
    entry ∈ (c.set nonce deadline).entries ↔ entry = (nonce, deadline) ∨ entry ∈ c.entries ∧ entry.1 ≠ nonce := by
  rw [set, List.mem_cons, List.mem_filter, decide_eq_true_iff]

lemma entries_set :
    (c.set nonce deadline).entries = (nonce, deadline) :: c.entries.filter fun entry => entry.1 ≠ nonce := rfl

/-- A claim looks at entries of the cache, among them all that are live. -/
lemma mem_swept {entry : String × ℤ} : entry ∈ (c.swept now).entries ↔
    entry ∈ c.entries ∧ (edgeReplayCapacity ≤ c.entries.length → now < entry.2) := by
  unfold swept
  split
  · rename_i hfull
    rw [sweep, Reservation.mem_purge]
    exact and_congr_right fun _ => ⟨fun h _ => h, fun h => h hfull⟩
  · rename_i hfull
    exact ⟨fun h => ⟨h, fun hle => absurd hle hfull⟩, fun h => h.1⟩

/-- **What a claim does**: it is refused and sweeps, or it takes its nonce, which has no live entry. -/
lemma claim_cases (c : EdgeReplayCache) (a : EdgeAuthorization) (now : ℤ) :
    (∃ e, c.claim a now = (c.swept now, .error e)) ∨
      ((∀ entry ∈ (c.swept now).entries, entry.1 = a.nonce → entry.2 ≤ now) ∧
        c.claim a now = ((c.swept now).set a.nonce (expires a), .ok ())) := by
  unfold claim
  split
  · exact .inl ⟨_, rfl⟩
  · rename_i hfree
    split
    · exact .inl ⟨_, rfl⟩
    · refine .inr ⟨fun entry hentry hnonce => ?_, rfl⟩
      by_contra hlive
      exact hfree ⟨entry, hentry, hnonce, not_le.mp hlive⟩

/-- A nonce with a live entry is refused. -/
lemma claim_refused {entry : String × ℤ} (hentry : entry ∈ c.entries) (hnonce : entry.1 = a.nonce)
    (hlive : now < entry.2) : c.claim a now = (c.swept now, .error "edge authorization nonce replayed") :=
  if_pos ⟨entry, mem_swept.mpr ⟨hentry, fun _ => hlive⟩, hnonce, hlive⟩

/-- **A refused claim leaves the live entries alone.** -/
lemma claim_error {e : String} (h : (c.claim a now).2 = .error e) {entry : String × ℤ} (hlive : now < entry.2) :
    entry ∈ (c.claim a now).1.entries ↔ entry ∈ c.entries := by
  rcases claim_cases c a now with ⟨e', heq⟩ | ⟨-, heq⟩
  · rw [heq, mem_swept]
    exact ⟨fun h => h.1, fun h => ⟨h, fun _ => hlive⟩⟩
  · rw [heq] at h
    cases h

end EdgeReplayCache

/-! ## Calls -/

/-- A request for an endpoint. -/
structure Call where
  endpointID : String
  method : String
  /-- The escaped path. -/
  path : String
  /-- The raw query. -/
  query : String
  /-- What is read of the body, unless that fails. -/
  body : Option (List UInt8)
  /-- The edge authorization header. -/
  header : List Char
  /-- The service key of the validator that assigned the endpoint. -/
  validatorKey : List UInt8

/-- `maxRuntimeRequestBytes`. -/
def maxRuntimeRequestBytes : ℕ := 2 ^ 20

/-- `readRuntimeRequestBody`. -/
def readRuntimeRequestBody (body : Option (List UInt8)) : Option (List UInt8) :=
  body.bind fun payload => if maxRuntimeRequestBytes < payload.length then none else some payload

/-- `verifyEdgeRequest`, up to its claim. -/
def verifyEdgeRequest (scheme : Scheme) (call : Call) (now : ℤ) : Except String EdgeAuthorization :=
  match readRuntimeRequestBody call.body with
  | none => .error "runtime request body is unreadable or exceeds the limit"
  | some body => verifyEdgeRuntimeRequest scheme
      ⟨Contract.sha256Hex body, call.endpointID, call.method, call.path, call.query⟩ call.header call.validatorKey now

/-- What is known of the header of a call that is verified. -/
lemma verifyEdgeRequest_eq_ok {scheme : Scheme} {call : Call} {now : ℤ} {a : EdgeAuthorization}
    (h : verifyEdgeRequest scheme call now = .ok a) :
    parseEdgeAuthorization call.header = .ok a ∧ Fresh now a.timestamp := by
  unfold verifyEdgeRequest at h
  split at h
  · cases h
  · obtain ⟨hparse, hfresh, -⟩ := verify_eq_ok.mp h
    exact ⟨hparse, hfresh⟩

/-! ## Interleavings -/

/-- A call between its verification and its claim. -/
structure Pending where
  header : List Char
  authorization : EdgeAuthorization
  now : ℤ

/-- The last reading of the clock, the calls in flight, the cache and the headers of the calls that succeeded. -/
structure State where
  clock : ℤ
  pending : List Pending
  cache : EdgeReplayCache
  honoured : List (List Char)

/-- What happens next. -/
inductive Event
  /-- A call reads the clock and is verified. -/
  | verify (call : Call) (now : ℤ)
  /-- The `i`-th call in flight claims its nonce. -/
  | claim (i : ℕ)

/-- One event; those against the order of the clock do not happen. -/
def step (scheme : Scheme) (s : State) : Event → State × Unit
  | .verify call now =>
    if now < s.clock then (s, ())
    else match verifyEdgeRequest scheme call now with
      | .error _ => ({ s with clock := now }, ())
      | .ok a => ({ s with clock := now, pending := s.pending ++ [⟨call.header, a, now⟩] }, ())
  | .claim i =>
    match s.pending[i]? with
    | none => (s, ())
    | some p =>
      match s.cache.claim p.authorization p.now with
      | (cache, .error _) => ({ s with pending := s.pending.eraseIdx i, cache }, ())
      | (cache, .ok _) =>
        ({ s with pending := s.pending.eraseIdx i, cache, honoured := s.honoured ++ [p.header] }, ())

/-- Before the first call. -/
def start : State := ⟨0, [], .empty, []⟩

/-- A claim that finds the cache full has read the clock before the entries expire of those calls in flight whose
authorizations were honoured before. -/
def Timely (s : State) : Event → Prop
  | .verify _ _ => True
  | .claim i => edgeReplayCapacity ≤ s.cache.entries.length → ∀ p ∈ s.pending[i]?, ∀ q ∈ s.pending,
      q.header ∈ s.honoured → p.now < EdgeReplayCache.expires q.authorization

/-- An honoured authorization has an entry that outlives it, or else it is not fresh any more and no call with it is
in flight. -/
def Kept (s : State) (header : List Char) : Prop :=
  ∃ a, parseEdgeAuthorization header = .ok a ∧
    ((∃ entry ∈ s.cache.entries, entry.1 = a.nonce ∧ EdgeReplayCache.expires a ≤ entry.2) ∨
      (EdgeReplayCache.expires a ≤ s.clock ∧ ∀ p ∈ s.pending, p.header ≠ header))

/-- The honoured headers differ and are kept, and the calls in flight were verified. -/
structure Guarded (s : State) : Prop where
  nodup : s.honoured.Nodup
  kept : ∀ header ∈ s.honoured, Kept s header
  pending : ∀ p ∈ s.pending, parseEdgeAuthorization p.header = .ok p.authorization ∧
    Fresh p.now p.authorization.timestamp ∧ p.now ≤ s.clock

lemma guarded_start : Guarded start := ⟨List.nodup_nil, List.forall_mem_nil _, List.forall_mem_nil _⟩

/-- A fresh authorization has not expired. -/
lemma lt_expires {now : ℤ} {a : EdgeAuthorization} (h : Fresh now a.timestamp) : now < EdgeReplayCache.expires a := by
  unfold Fresh edgeRequestFreshness edgeRequestFutureSkew at h
  unfold EdgeReplayCache.expires edgeRequestFreshness edgeRequestFutureSkew
  omega

/-- What is kept while other calls are verified. -/
lemma Kept.verify {s : State} {header : List Char} (h : Kept s header) {now : ℤ} (hclock : s.clock ≤ now)
    {more : List Pending} (hmore : ∀ p ∈ more, Fresh now p.authorization.timestamp ∧
      parseEdgeAuthorization p.header = .ok p.authorization) :
    Kept { s with clock := now, pending := s.pending ++ more } header := by
  obtain ⟨a, hparse, hentry | ⟨hexpired, hpending⟩⟩ := h
  · exact ⟨a, hparse, .inl hentry⟩
  · refine ⟨a, hparse, .inr ⟨hexpired.trans hclock, fun p hp => ?_⟩⟩
    rcases List.mem_append.mp hp with hp | hp
    · exact hpending p hp
    · rintro rfl
      obtain ⟨hfresh, hparsed⟩ := hmore p hp
      obtain rfl := Except.ok.inj (hparse.symm.trans hparsed)
      exact absurd (lt_expires hfresh) (not_lt.mpr (hexpired.trans hclock))

/-- What is kept by a sweep that is timely. -/
lemma Kept.swept {s : State} {header : List Char} (h : Kept s header) (hs : Guarded s) {i : ℕ} {p : Pending}
    (hp : p ∈ s.pending) (hheader : header ∈ s.honoured)
    (htimely : edgeReplayCapacity ≤ s.cache.entries.length → ∀ q ∈ s.pending, q.header ∈ s.honoured →
      p.now < EdgeReplayCache.expires q.authorization) :
    Kept { s with pending := s.pending.eraseIdx i, cache := s.cache.swept p.now } header := by
  obtain ⟨a, hparse, ⟨entry, hentry, hnonce, houtlives⟩ | ⟨hexpired, hpending⟩⟩ := h
  · by_cases hswept : edgeReplayCapacity ≤ s.cache.entries.length → p.now < entry.2
    · exact ⟨a, hparse, .inl ⟨entry, EdgeReplayCache.mem_swept.mpr ⟨hentry, hswept⟩, hnonce, houtlives⟩⟩
    · -- The entry is swept; the sweep is timely, so that no call that holds this authorization is in flight.
      rw [Classical.not_imp, not_lt] at hswept
      obtain ⟨hfull, hgone⟩ := hswept
      refine ⟨a, hparse, .inr ⟨(houtlives.trans hgone).trans (hs.pending p hp).2.2, fun q hq => ?_⟩⟩
      have hq := List.mem_of_mem_eraseIdx hq
      rintro rfl
      obtain rfl := Except.ok.inj (hparse.symm.trans (hs.pending q hq).1)
      exact absurd (htimely hfull q hq hheader) (not_lt.mpr (houtlives.trans hgone))
  · exact ⟨a, hparse, .inr ⟨hexpired, fun q hq => hpending q (List.mem_of_mem_eraseIdx hq)⟩⟩

/-- What is kept when a nonce without live entry is taken. -/
lemma Kept.set {s : State} {header : List Char} (h : Kept s header) {nonce : String} {now expires : ℤ}
    (hfree : ∀ entry ∈ s.cache.entries, entry.1 = nonce → entry.2 ≤ now) (hnow : now ≤ expires) :
    Kept { s with cache := s.cache.set nonce expires } header := by
  obtain ⟨a, hparse, ⟨entry, hentry, hnonce, houtlives⟩ | hgone⟩ := h
  · refine ⟨a, hparse, .inl ?_⟩
    by_cases hsame : entry.1 = nonce
    · exact ⟨(nonce, expires), EdgeReplayCache.mem_set.mpr (.inl rfl), hsame.symm.trans hnonce,
        houtlives.trans ((hfree entry hentry hsame).trans hnow)⟩
    · exact ⟨entry, EdgeReplayCache.mem_set.mpr (.inr ⟨hentry, hsame⟩), hnonce, houtlives⟩
  · exact ⟨a, hparse, .inr hgone⟩

/-- A call whose authorization was honoured is refused. -/
lemma Guarded.refuses {s : State} (h : Guarded s) {p : Pending} (hp : p ∈ s.pending) (hheader : p.header ∈ s.honoured) :
    s.cache.claim p.authorization p.now =
      (s.cache.swept p.now, .error "edge authorization nonce replayed") := by
  obtain ⟨hparsed, hfresh, -⟩ := h.pending p hp
  obtain ⟨a, hparse, hkept⟩ := h.kept _ hheader
  obtain rfl := Except.ok.inj (hparse.symm.trans hparsed)
  rcases hkept with ⟨entry, hentry, hnonce, houtlives⟩ | ⟨-, hpending⟩
  · exact EdgeReplayCache.claim_refused hentry hnonce (lt_of_lt_of_le (lt_expires hfresh) houtlives)
  · exact absurd rfl (hpending p hp)

/-- **One event** of a run whose sweeps are timely. -/
lemma guarded_step {scheme : Scheme} {s : State} {e : Event} (h : Guarded s) (htimely : Timely s e) :
    Guarded (Machine.next (step scheme) s e) := by
  unfold Machine.next step
  cases e with
  | verify call now =>
    dsimp only
    split
    · exact h
    · rename_i hclock
      have hclock : s.clock ≤ now := not_lt.mp hclock
      have hold : ∀ p ∈ s.pending, parseEdgeAuthorization p.header = .ok p.authorization ∧
          Fresh p.now p.authorization.timestamp ∧ p.now ≤ now := fun p hp =>
        ⟨(h.pending p hp).1, (h.pending p hp).2.1, (h.pending p hp).2.2.trans hclock⟩
      cases hverified : verifyEdgeRequest scheme call now with
      | error e =>
        refine ⟨h.nodup, fun header hheader => ?_, hold⟩
        have hkept := (h.kept header hheader).verify hclock (List.forall_mem_nil _)
        rwa [List.append_nil] at hkept
      | ok a =>
        obtain ⟨hparse, hfresh⟩ := verifyEdgeRequest_eq_ok hverified
        refine ⟨h.nodup, fun header hheader => (h.kept header hheader).verify hclock ?_, fun p hp => ?_⟩
        · exact List.forall_mem_singleton.mpr ⟨hfresh, hparse⟩
        · rcases List.mem_append.mp hp with hp | hp
          · exact hold p hp
          · rw [List.mem_singleton.mp hp]
            exact ⟨hparse, hfresh, le_rfl⟩
  | claim i =>
    dsimp only
    cases hp : s.pending[i]? with
    | none => exact h
    | some p =>
      have hmem := List.mem_of_getElem? hp
      have hrest : ∀ q ∈ s.pending.eraseIdx i, parseEdgeAuthorization q.header = .ok q.authorization ∧
          Fresh q.now q.authorization.timestamp ∧ q.now ≤ s.clock := fun q hq =>
        h.pending q (List.mem_of_mem_eraseIdx hq)
      have hkept : ∀ header ∈ s.honoured,
          Kept { s with pending := s.pending.eraseIdx i, cache := s.cache.swept p.now } header :=
        fun header hheader => (h.kept header hheader).swept h hmem hheader fun hfull => htimely hfull p hp
      dsimp only
      rcases EdgeReplayCache.claim_cases s.cache p.authorization p.now with ⟨e, heq⟩ | ⟨hfree, heq⟩
      · rw [heq]
        exact ⟨h.nodup, hkept, hrest⟩
      · have hnew : p.header ∉ s.honoured := by
          intro hheader
          rw [h.refuses hmem hheader] at heq
          exact absurd (congrArg Prod.snd heq) nofun
        have hnow := (lt_expires (h.pending p hmem).2.1).le
        rw [heq]
        refine ⟨?_, fun header hheader => ?_, hrest⟩
        · rw [← List.concat_eq_append, List.nodup_concat]
          exact ⟨hnew, h.nodup⟩
        · rcases List.mem_append.mp hheader with hheader | hheader
          · exact (hkept header hheader).set hfree hnow
          · rw [List.mem_singleton.mp hheader]
            exact ⟨p.authorization, (h.pending p hmem).1,
              .inl ⟨_, EdgeReplayCache.mem_set.mpr (.inl rfl), rfl, le_rfl⟩⟩

/-- **The invariant**, along runs whose sweeps are timely. -/
theorem guarded_run {scheme : Scheme} {events : List Event} (h : Machine.Meets (step scheme) Timely start events) :
    Guarded (Machine.run (step scheme) start events) :=
  h.run_invariant (fun _ _ hs htimely => guarded_step hs htimely) guarded_start

/-- **No edge authorization is honoured twice** in a run whose sweeps are timely, and a claim that is refused changes
no live entry. -/
theorem honoured_once (scheme : Scheme) :
    (∀ events, Machine.Meets (step scheme) Timely start events →
      (Machine.run (step scheme) start events).honoured.Nodup) ∧
    ∀ (c : EdgeReplayCache) (a : EdgeAuthorization) (now : ℤ) (e : String), (c.claim a now).2 = .error e →
      ∀ entry : String × ℤ, now < entry.2 → (entry ∈ (c.claim a now).1.entries ↔ entry ∈ c.entries) :=
  ⟨fun _ h => (guarded_run h).nodup, fun _ _ _ _ h _ hlive => EdgeReplayCache.claim_error h hlive⟩

/-! ## An authorization that is honoured twice -/

/-- The `n`-th nonce. -/
def numbered (n : ℕ) : String :=
  String.ofList (Hex.encode (n / 2 ^ 16 % 256 :: n / 2 ^ 8 % 256 :: n % 256 :: List.replicate 13 0))

lemma lowercaseHex_numbered (n : ℕ) : Protocol.lowercaseHex (numbered n) 32 = true := by
  rw [numbered, Protocol.lowercaseHex, String.toList_ofList, Hex.encode_length, Contract.all_hexDigit_encode]
  rfl

lemma numbered_inj {m n : ℕ} (hm : m < 2 ^ 24) (hn : n < 2 ^ 24) (h : numbered m = numbered n) : m = n := by
  have hdecode := congrArg (fun s => Hex.decode s.toList) h
  simp only [numbered, String.toList_ofList] at hdecode
  rw [Hex.decode_encode, Hex.decode_encode] at hdecode
  · simp only [List.cons.injEq] at hdecode
    omega
  all_goals
    simp only [List.mem_cons, List.mem_replicate]
    omega

/-- The signed authorization with the `n`-th nonce. -/
def authorize (timestamp : ℤ) (n : ℕ) : EdgeAuthorization :=
  ⟨timestamp, numbered n,
    keyed.sign privateKey ((edgeRuntimeRequestMessage (root.with ⟨timestamp, numbered n, []⟩)).toOption.getD [])⟩

/-- The call that carries it. -/
def call (timestamp : ℤ) (n : ℕ) : Call :=
  ⟨"abc", "GET", "/", "", some [], (authorize timestamp n).header, publicKey⟩

lemma verify_call {timestamp now : ℤ} (n : ℕ) (hpos : 1 ≤ timestamp) (hmax : timestamp ≤ maxInt64)
    (hfresh : Fresh now timestamp) : verifyEdgeRequest keyed (call timestamp n) now = .ok (authorize timestamp n) := by
  obtain ⟨message, hmessage⟩ := message_root (a := ⟨timestamp, numbered n, []⟩) (lowercaseHex_numbered n) hpos
  have hauthorize : authorize timestamp n = ⟨timestamp, numbered n, keyed.sign privateKey message⟩ := by
    rw [authorize, hmessage]
    rfl
  have hbody : readRuntimeRequestBody (call timestamp n).body = some [] := rfl
  rw [verifyEdgeRequest, hbody]
  refine verify_eq_ok.mpr ⟨parse_header ⟨hpos, hmax, lowercaseHex_numbered n, ?_⟩, hfresh, rfl, message, ?_, ?_⟩
  · rw [hauthorize]
    exact length_keyed message
  · exact hmessage
  · rw [hauthorize]
    exact verify_keyed message

/-- The state of a run, up to the proof that the cache carries and to the past of the clock. -/
structure At (s : State) (clock : ℤ) (pending : List Pending) (entries : List (String × ℤ))
    (honoured : List (List Char)) : Prop where
  clock : s.clock ≤ clock
  pending : s.pending = pending
  entries : s.cache.entries = entries
  honoured : s.honoured = honoured

section Runs

variable {s : State} {clock now timestamp : ℤ} {pending : List Pending} {entries : List (String × ℤ)}
  {honoured : List (List Char)} {n : ℕ}

/-- What is in flight when a call was verified. -/
def inFlight (timestamp : ℤ) (n : ℕ) (now : ℤ) : Pending := ⟨(call timestamp n).header, authorize timestamp n, now⟩

lemma At.verify (h : At s clock pending entries honoured) (n : ℕ) (hclock : clock ≤ now) (hpos : 1 ≤ timestamp)
    (hmax : timestamp ≤ maxInt64) (hfresh : Fresh now timestamp) :
    At (Machine.next (step keyed) s (.verify (call timestamp n) now)) now (pending ++ [inFlight timestamp n now])
      entries honoured := by
  have hnow : ¬ now < s.clock := not_lt.mpr (h.clock.trans hclock)
  have hnext : Machine.next (step keyed) s (.verify (call timestamp n) now) =
      { s with clock := now, pending := s.pending ++ [inFlight timestamp n now] } := by
    rw [Machine.next, step, if_neg hnow, verify_call n hpos hmax hfresh]
    rfl
  rw [hnext]
  exact ⟨le_rfl, by rw [← h.pending], h.entries, h.honoured⟩

/-- A nonce that the cache does not have is claimed while there is room. -/
lemma At.claim (h : At s clock (pending ++ [inFlight timestamp n now]) entries honoured)
    (hroom : entries.length < edgeReplayCapacity) (hnew : ∀ entry ∈ entries, entry.1 ≠ numbered n) :
    At (Machine.next (step keyed) s (.claim pending.length)) clock pending
      ((numbered n, EdgeReplayCache.expires (authorize timestamp n)) :: entries)
      (honoured ++ [(authorize timestamp n).header]) := by
  have hget : s.pending[pending.length]? = some (inFlight timestamp n now) := by
    rw [h.pending, List.getElem?_append_right le_rfl, Nat.sub_self]
    rfl
  have hswept : s.cache.swept now = s.cache := by
    rw [EdgeReplayCache.swept, h.entries, if_neg (not_le.mpr hroom)]
  have hclaim : s.cache.claim (authorize timestamp n) now =
      (s.cache.set (numbered n) (EdgeReplayCache.expires (authorize timestamp n)), .ok ()) := by
    have hnone : ¬ ∃ entry ∈ s.cache.entries, entry.1 = (authorize timestamp n).nonce ∧ now < entry.2 := by
      rintro ⟨entry, hentry, hnonce, -⟩
      exact hnew entry (h.entries ▸ hentry) hnonce
    rw [EdgeReplayCache.claim, hswept, if_neg hnone, h.entries, if_neg (not_le.mpr hroom)]
    rfl
  have hset : (s.cache.set (numbered n) (EdgeReplayCache.expires (authorize timestamp n))).entries =
      (numbered n, EdgeReplayCache.expires (authorize timestamp n)) :: entries := by
    rw [EdgeReplayCache.entries_set, h.entries,
      List.filter_eq_self.mpr fun entry hentry => decide_eq_true (hnew entry hentry)]
  have herase : s.pending.eraseIdx pending.length = pending := by
    rw [h.pending, List.eraseIdx_append_of_length_le le_rfl, Nat.sub_self]
    simp
  rw [Machine.next, step, hget]
  dsimp only
  rw [show s.cache.claim (inFlight timestamp n now).authorization (inFlight timestamp n now).now = _ from hclaim]
  exact ⟨h.clock, herase, hset, by rw [← h.honoured]; rfl⟩

/-- A nonce with a live entry is refused by a full cache, which sweeps. -/
lemma At.sweep (h : At s clock (pending ++ [inFlight timestamp n now]) entries honoured)
    (hfull : edgeReplayCapacity ≤ entries.length) {deadline : ℤ} (hold : (numbered n, deadline) ∈ entries)
    (hlive : now < deadline) :
    At (Machine.next (step keyed) s (.claim pending.length)) clock pending (Reservation.purge now entries) honoured := by
  have hget : s.pending[pending.length]? = some (inFlight timestamp n now) := by
    rw [h.pending, List.getElem?_append_right le_rfl, Nat.sub_self]
    rfl
  have hclaim : s.cache.claim (authorize timestamp n) now =
      (s.cache.swept now, .error "edge authorization nonce replayed") :=
    EdgeReplayCache.claim_refused (h.entries ▸ hold) rfl hlive
  have hswept : (s.cache.swept now).entries = Reservation.purge now entries := by
    rw [EdgeReplayCache.swept, if_pos (by rwa [h.entries]), ← h.entries]
    rfl
  have herase : s.pending.eraseIdx pending.length = pending := by
    rw [h.pending, List.eraseIdx_append_of_length_le le_rfl, Nat.sub_self]
    simp
  rw [Machine.next, step, hget]
  dsimp only
  rw [show s.cache.claim (inFlight timestamp n now).authorization (inFlight timestamp n now).now = _ from hclaim]
  exact ⟨h.clock, herase, hswept, h.honoured⟩

end Runs

/-- The timestamp of the authorization that comes twice, twenty seconds after the epoch. -/
def early : ℤ := 20000000000

/-- When its entry expires. -/
def late : ℤ := 32000000000

/-- The second call with it, which was verified at the end of its freshness. -/
def delayed : Pending := inFlight early 0 30000000000

/-- Its entry, and those of `n` others. -/
def filled : ℕ → List (String × ℤ)
  | 0 => [(numbered 0, EdgeReplayCache.expires (authorize early 0))]
  | n + 1 => (numbered (n + 1), EdgeReplayCache.expires (authorize late (n + 1))) :: filled n

/-- The headers that made the entries. -/
def filledHeaders : ℕ → List (List Char)
  | 0 => [(authorize early 0).header]
  | n + 1 => filledHeaders n ++ [(authorize late (n + 1)).header]

/-- The calls that fill the cache. -/
def fill : ℕ → List Event
  | 0 => []
  | n + 1 => fill n ++ [.verify (call late (n + 1)) late, .claim 1]

lemma length_filled (n : ℕ) : (filled n).length = n + 1 := by
  induction n with
  | zero => rfl
  | succ n ih => rw [filled, List.length_cons, ih]

lemma mem_filledHeaders (n : ℕ) : (authorize early 0).header ∈ filledHeaders n := by
  induction n with
  | zero => exact List.mem_singleton_self _
  | succ n ih => exact List.mem_append_left _ ih

lemma mem_filled {n : ℕ} {entry : String × ℤ} (h : entry ∈ filled n) :
    entry = (numbered 0, late) ∨ ∃ k ≤ n, 0 < k ∧ entry = (numbered k, late + 12000000000) := by
  induction n with
  | zero => exact .inl (List.mem_singleton.mp h)
  | succ n ih =>
    rcases List.mem_cons.mp h with rfl | h
    · exact .inr ⟨n + 1, le_rfl, Nat.succ_pos n, rfl⟩
    · rcases ih h with hzero | ⟨k, hk, hpos, heq⟩
      · exact .inl hzero
      · exact .inr ⟨k, hk.trans (Nat.le_succ n), hpos, heq⟩

lemma first_mem_filled {n : ℕ} (hn : 0 < n) : (numbered 1, late + 12000000000) ∈ filled n := by
  induction n with
  | zero => cases hn
  | succ n ih =>
    rcases n.eq_zero_or_pos with rfl | hpos
    · exact List.mem_cons_self
    · exact List.mem_cons_of_mem _ (ih hpos)

/-- What a sweep leaves of the filled cache. -/
lemma length_purge_filled (n : ℕ) : (Reservation.purge late (filled n)).length = n := by
  induction n with
  | zero =>
    have hgone : ¬ late < EdgeReplayCache.expires (authorize early 0) := by
      rw [show EdgeReplayCache.expires (authorize early 0) = late from rfl]
      exact lt_irrefl late
    rw [filled, Reservation.purge, List.filter_cons_of_neg (by simpa using hgone)]
    rfl
  | succ n ih =>
    have hlive : late < EdgeReplayCache.expires (authorize late (n + 1)) := by
      rw [show EdgeReplayCache.expires (authorize late (n + 1)) = late + 12000000000 from rfl]
      exact lt_add_of_pos_right late (by decide)
    rw [Reservation.purge] at ih ⊢
    rw [filled, List.filter_cons_of_pos (by simpa using hlive), List.length_cons, ih]

lemma ne_of_mem_purge_filled {n : ℕ} (hn : n < 2 ^ 24) {entry : String × ℤ}
    (h : entry ∈ Reservation.purge late (filled n)) : entry.1 ≠ numbered 0 := by
  obtain ⟨hmem, hlive⟩ := Reservation.mem_purge.mp h
  rcases mem_filled hmem with rfl | ⟨k, hk, hpos, rfl⟩
  · exact absurd hlive (lt_irrefl late)
  · intro heq
    have hzero : k = 0 := numbered_inj (by omega) (by decide) heq
    omega

/-- **The cache is filled** while the delayed call is in flight. -/
lemma At.fill {s : State} (h : At s late [delayed] (filled 0) (filledHeaders 0)) {n : ℕ}
    (hn : n < edgeReplayCapacity) :
    At (Machine.run (step keyed) s (fill n)) late [delayed] (filled n) (filledHeaders n) := by
  induction n with
  | zero => exact h
  | succ n ih =>
    have hverified := (ih (by omega)).verify (n + 1) le_rfl (show (1 : ℤ) ≤ late by decide) (by decide)
      (by unfold Fresh; decide)
    have hnew : ∀ entry ∈ filled n, entry.1 ≠ numbered (n + 1) := by
      have hbound : n + 1 < 2 ^ 24 := hn.trans (by decide)
      intro entry hentry heq
      rcases mem_filled hentry with rfl | ⟨k, hk, -, rfl⟩
      · have := numbered_inj (by decide) hbound heq
        omega
      · have := numbered_inj (by omega) hbound heq
        omega
    have hclaimed := hverified.claim (by rw [length_filled]; omega) hnew
    rw [Edge.fill, Machine.run_append, Machine.run_cons, Machine.run_cons, Machine.run_nil]
    exact hclaimed

/-- The first call is honoured, and the second one is verified. -/
lemma at_delayed : At (Machine.run (step keyed) start
    [.verify (call early 0) early, .claim 0, .verify (call early 0) 30000000000]) late [delayed] (filled 0)
      (filledHeaders 0) := by
  have hstart : At start early [] [] [] := ⟨by decide, rfl, rfl, rfl⟩
  have hfirst : At (Machine.next (step keyed) (Machine.next (step keyed) start (.verify (call early 0) early))
      (.claim 0)) early [] (filled 0) (filledHeaders 0) :=
    (hstart.verify 0 le_rfl (show (1 : ℤ) ≤ early by decide) (by decide) (by unfold Fresh; decide)).claim
      (by decide) (List.forall_mem_nil _)
  have hagain : At _ 30000000000 ([] ++ [delayed]) (filled 0) (filledHeaders 0) :=
    hfirst.verify 0 (by decide) (show (1 : ℤ) ≤ early by decide) (by decide) (by unfold Fresh; decide)
  rw [Machine.run_cons, Machine.run_cons, Machine.run_cons, Machine.run_nil]
  exact ⟨hagain.clock.trans (by decide), hagain.pending, hagain.entries, hagain.honoured⟩

/-- A first call, and a second one that is refused: its entry stays. -/
theorem honoured_once_early :
    (Machine.run (step keyed) start [.verify (call early 0) early, .claim 0]).honoured.Nodup ∧
      ((numbered 0, late) ∈ ((EdgeReplayCache.empty.set (numbered 0) late).claim (authorize early 0) early).1.entries ↔
        (numbered 0, late) ∈ (EdgeReplayCache.empty.set (numbered 0) late).entries) := by
  have hstart : At start early [] [] [] := ⟨by decide, rfl, rfl, rfl⟩
  have hverified := hstart.verify 0 le_rfl (show (1 : ℤ) ≤ early by decide) (by decide) (by unfold Fresh; decide)
  have hroom : ¬ edgeReplayCapacity ≤ ([] : List (String × ℤ)).length := by decide
  refine ⟨(honoured_once keyed).1 _ ⟨trivial, fun hfull => absurd (hverified.entries ▸ hfull) hroom, trivial⟩,
    (honoured_once keyed).2 _ _ _ "edge authorization nonce replayed" ?_ _ (by decide)⟩
  have hentry : (numbered 0, late) ∈ (EdgeReplayCache.empty.set (numbered 0) late).entries :=
    EdgeReplayCache.mem_set.mpr (.inl rfl)
  exact congrArg Prod.snd (EdgeReplayCache.claim_refused hentry rfl (by decide))

/-- A replayed nonce sweeps the full cache, and the delayed call is honoured. -/
lemma At.twice {s : State} {n : ℕ} (h : At s late [delayed] (filled n) (filledHeaders n))
    (hn : n + 1 = edgeReplayCapacity) :
    (Machine.run (step keyed) s [.verify (call late 1) late, .claim 1, .claim 0]).honoured =
      filledHeaders n ++ [(authorize early 0).header] := by
  have hcapacity : edgeReplayCapacity = 262144 := rfl
  have hswept : At _ late ([] ++ [delayed]) _ _ :=
    (h.verify 1 le_rfl (show (1 : ℤ) ≤ late by decide) (by decide) (by unfold Fresh; decide)).sweep
      (by rw [length_filled]; omega) (first_mem_filled (by omega)) (by decide)
  have htwice := hswept.claim (by rw [length_purge_filled]; omega) fun entry hentry =>
    ne_of_mem_purge_filled (by omega) hentry
  rw [Machine.run_cons, Machine.run_cons, Machine.run_cons, Machine.run_nil]
  exact htwice.honoured

/-- A run that fills the cache, sweeps it and then comes to the claim of the delayed call. -/
def sweepingRun (n : ℕ) : List Event :=
  [.verify (call early 0) early, .claim 0, .verify (call early 0) 30000000000] ++ fill n ++
    [.verify (call late 1) late, .claim 1, .claim 0]

lemma not_nodup_sweepingRun {n : ℕ} (hn : n + 1 = edgeReplayCapacity) :
    ¬ (Machine.run (step keyed) start (sweepingRun n)).honoured.Nodup := by
  have hroom : n < edgeReplayCapacity := by omega
  rw [sweepingRun, Machine.run_append, Machine.run_append, (at_delayed.fill hroom).twice hn]
  intro hnodup
  exact List.disjoint_of_nodup_append hnodup (mem_filledHeaders n) (List.mem_singleton_self _)

/-- **An authorization is honoured twice.** Its second call is verified ten seconds after its timestamp and claims
late; in between its entry expires, and a claim that meets a full cache sweeps it. -/
theorem honoured_twice : ∃ events, ¬ (Machine.run (step keyed) start events).honoured.Nodup := by
  have hcapacity : edgeReplayCapacity = 262144 := rfl
  exact ⟨_, not_nodup_sweepingRun (n := edgeReplayCapacity - 1) (by omega)⟩

end Edge

end Misscomputer
