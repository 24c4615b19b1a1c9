import Misscomputer.Contract.Parsing
import Misscomputer.Lib.Sha256Numeral
import Misscomputer.Organic.Corroboration
import Misscomputer.Probe.Firing
import Misscomputer.Probe.Targets
import Mathlib.Data.Set.Function
import Mathlib.Algebra.Order.Ring.Int

set_option relaxedAutoImplicit false
set_option autoImplicit false

/-!
# Hidden plans place each probe in its own slice

An epoch is cut into as many slices as an endpoint gets probes. A plan has, for every endpoint incarnation and
every slice, one probe at an instant of the slice, or none where the instant lies outside the horizon; its
nonces differ, and it is sorted by the instants.

## Main definitions

* `Probe.HiddenPlan` — what a plan is promised to be.
* `Probe.PlansManifest`, `Probe.PlansIndexes` — the two planners keep the promise on an input.

## Main results

* `Probe.Schedule.slice_bounds` — where an instant of a slice lies.
* `Probe.planEach_eq_ok` — which records a pass over the places makes.
* `Probe.hiddenPlan_of_pass` — a pass that makes its records makes a plan.
* `Probe.hidden_plans_iff` — on which inputs the two planners keep the promise.

## References

* `src/misscomputer_subnet/organic_probe.py` (`plan_hidden_probes`)
* `src/misscomputer_subnet/static_probe.py` (`plan_static_hidden_probes`)
-/

namespace Misscomputer

namespace Probe

open Contract
open Organic (ActiveAssignmentManifestV2 OrganicDeploymentAssignment OrganicAssignedReplica)
open StaticIndex (AuthenticatedIndex StaticEndpointTarget)

/-! ## The slices -/

namespace Schedule

variable {s : Schedule}

/-- An instant of a slice. -/
def InSlice (s : Schedule) (position : ℕ) (fireAt : ℤ) : Prop :=
  s.epochStart + position * s.slot ≤ fireAt ∧ fireAt < s.epochStart + (position + 1) * s.slot

/-- An instant of the epoch. -/
def InEpoch (s : Schedule) (fireAt : ℤ) : Prop := s.epochStart ≤ fireAt ∧ fireAt < s.epochEnd

lemma check_eq_ok {u : Unit} : s.check = .ok u ↔ s.Accepted := by
  simp only [check, Except.bind_eq_ok, Except.reject_eq_ok, exists_const, Accepted, not_not, not_lt]

lemma Accepted.slot_pos (h : s.Accepted) : 0 < s.slot := by
  obtain ⟨⟨⟨hseconds, -⟩, hone, hmost⟩, -⟩ := h
  have hfits : 1 * s.probesPerEndpoint ≤ s.epochMillis := by
    rw [epochMillis]
    omega
  have hslot : 1 ≤ s.slot := (Int.le_ediv_iff_mul_le (by omega)).mpr hfits
  omega

/-- **Where an instant of a slice lies**: in the slice, and in the epoch, whatever HMAC gave. -/
theorem slice_bounds (h : s.Accepted) {position : ℕ} (hposition : position < s.probesPerEndpoint.toNat) (timing : Mac) :
    s.InSlice position (s.fireAt position timing) ∧ s.InEpoch (s.fireAt position timing) ∧
      0 ≤ s.fireAt position timing := by
  have hslot := h.slot_pos
  obtain ⟨⟨⟨hseconds, -⟩, hone, -⟩, hindex⟩ := h
  have hfirst : 0 ≤ (fromBytes (timing.toList.take 8) : ℤ) % s.slot := Int.emod_nonneg _ (by omega)
  have hlast : (fromBytes (timing.toList.take 8) : ℤ) % s.slot < s.slot := Int.emod_lt_of_pos _ hslot
  have hbefore : 0 ≤ (position : ℤ) * s.slot := Int.mul_nonneg (by omega) (by omega)
  have hstart : 0 ≤ s.epochStart := Int.mul_nonneg hindex (by rw [epochMillis]; omega)
  -- all slices together are no longer than the epoch
  have hall : ((position : ℤ) + 1) * s.slot ≤ s.epochMillis := by
    calc ((position : ℤ) + 1) * s.slot ≤ s.probesPerEndpoint * s.slot :=
          Int.mul_le_mul_of_nonneg_right (by omega) (by omega)
      _ ≤ s.epochMillis := Int.mul_ediv_self_le (by omega)
  have hend : s.epochEnd = s.epochStart + s.epochMillis := by rw [epochEnd, epochStart, Int.add_mul, Int.one_mul]
  have hnext : ((position : ℤ) + 1) * s.slot = position * s.slot + s.slot := by rw [Int.add_mul, Int.one_mul]
  simp only [InSlice, InEpoch, Schedule.fireAt]
  omega

end Schedule

/-! ## One pass over the places -/

section Pass

variable {D P T : Type} {probe : D → Except PlanError (Option P)} {draws : List D} {plan : List P} {d : D}

/-- The record a place adds to the plan. -/
def found (probe : D → Except PlanError (Option P)) (d : D) : Option P :=
  match probe d with
  | .ok planned => planned
  | .error _ => none

/-- **Which records a pass makes**: those of its places, if it fails at none. -/
lemma planEach_eq_ok : planEach probe draws = .ok plan ↔
    (∀ d ∈ draws, ∃ planned, probe d = .ok planned) ∧ plan = draws.filterMap (found probe) := by
  induction draws generalizing plan with
  | nil =>
    change Except.ok [] = .ok plan ↔ _
    rw [Except.ok.injEq]
    exact ⟨fun h => ⟨fun d hd => absurd hd List.not_mem_nil, h.symm⟩, fun h => h.2.symm⟩
  | cons d draws ih =>
    have hstep : planEach probe (d :: draws) = .ok plan ↔
        ∃ planned, probe d = .ok planned ∧ ∃ rest, planEach probe draws = .ok rest ∧ plan = planned.toList ++ rest := by
      simp only [planEach, List.mapM_cons, Except.bind_eq_ok, pure, Except.pure, Except.ok.injEq]
      constructor
      · rintro ⟨_, ⟨planned, hplanned, others, hothers, rfl⟩, rfl⟩
        exact ⟨planned, hplanned, _, ⟨others, hothers, rfl⟩, by cases planned <;> rfl⟩
      · rintro ⟨planned, hplanned, _, ⟨others, hothers, rfl⟩, rfl⟩
        exact ⟨_, ⟨planned, hplanned, others, hothers, rfl⟩, by cases planned <;> rfl⟩
    rw [hstep, List.forall_mem_cons]
    constructor
    · rintro ⟨planned, hplanned, rest, hrest, rfl⟩
      obtain ⟨hall, rfl⟩ := ih.mp hrest
      refine ⟨⟨⟨planned, hplanned⟩, hall⟩, ?_⟩
      rw [List.filterMap_cons, found, hplanned]
      cases planned <;> rfl
    · rintro ⟨⟨⟨planned, hplanned⟩, hall⟩, rfl⟩
      refine ⟨planned, hplanned, _, ih.mpr ⟨hall, rfl⟩, ?_⟩
      rw [List.filterMap_cons, found, hplanned]
      cases planned <;> rfl

variable [DecidableEq T] {f : D → Option P} {place : D → T} {tag : P → T}

/-- The records of one place. -/
lemma filter_filterMap (hnodup : (draws.map place).Nodup) (htag : ∀ d ∈ draws, ∀ p ∈ f d, tag p = place d)
    (hd : d ∈ draws) : ((draws.filterMap f).filter fun p => tag p = place d) = (f d).toList := by
  induction draws with
  | nil => cases hd
  | cons a draws ih =>
    rw [List.map_cons, List.nodup_cons] at hnodup
    obtain ⟨ha, hrest⟩ := List.forall_mem_cons.mp htag
    have hsplit : (a :: draws).filterMap f = (f a).toList ++ draws.filterMap f := by
      rw [List.filterMap_cons]
      cases f a <;> rfl
    rw [hsplit, List.filter_append]
    rcases List.mem_cons.mp hd with rfl | hd
    · have hown : ((f d).toList.filter fun p => tag p = place d) = (f d).toList :=
        List.filter_eq_self.mpr fun p hp => by simpa using ha p (Option.mem_toList.mp hp)
      have hothers : ((draws.filterMap f).filter fun p => tag p = place d) = [] := by
        rw [List.filter_eq_nil_iff]
        intro p hp
        obtain ⟨other, hother, hfound⟩ := List.mem_filterMap.mp hp
        rw [decide_eq_true_eq, hrest other hother p hfound]
        exact fun heq => hnodup.1 (heq ▸ List.mem_map_of_mem hother)
      rw [hown, hothers, List.append_nil]
    · have hfirst : ((f a).toList.filter fun p => tag p = place d) = [] := by
        rw [List.filter_eq_nil_iff]
        intro p hp
        rw [decide_eq_true_eq, ha p (Option.mem_toList.mp hp)]
        exact fun heq => hnodup.1 (heq ▸ List.mem_map_of_mem hd)
      rw [hfirst, List.nil_append]
      exact ih hnodup.2 hrest hd

/-- What a plan is promised to be: sorted by the instants; with one record for every place whose derived instant
lies in the horizon, at an instant of its slice, of the epoch and of the horizon, and none for the others; and
with nonces that differ. -/
structure HiddenPlan (s : Schedule) (inHorizon : ℤ → Prop) (places : D → Prop) (place : D → T) (position : D → ℕ)
    (derived : D → ℤ) (tag : P → T) (fireAt : P → ℤ) (nonce : P → String) (plan : List P) : Prop where
  sorted : plan.Pairwise fun p q => fireAt p ≤ fireAt q
  placed : ∀ d, places d →
    (∃ p, (plan.filter fun p => tag p = place d) = [p] ∧ s.InSlice (position d) (fireAt p) ∧ s.InEpoch (fireAt p) ∧
        inHorizon (fireAt p)) ∨
      (plan.filter fun p => tag p = place d) = [] ∧ ¬ inHorizon (derived d)
  onlyPlaces : ∀ p ∈ plan, ∃ d, places d ∧ tag p = place d
  distinct : (plan.map nonce).Nodup

/-- **A pass makes a plan** where its places differ, each record is the one of its place, and nonces are alike
for alike places only. -/
theorem hiddenPlan_of_pass {s : Schedule} {inHorizon : ℤ → Prop} {places : D → Prop} {position : D → ℕ}
    {derived : D → ℤ} {fireAt : P → ℤ} {nonce : P → String} (nonceOf : D → String)
    (hdraws : ∀ d, d ∈ draws ↔ places d) (hnodup : (draws.map place).Nodup)
    (hfound : ∀ d ∈ draws, (f d = none ∧ ¬ inHorizon (derived d)) ∨ ∃ p, f d = some p ∧ tag p = place d ∧
      fireAt p = derived d ∧ nonce p = nonceOf d ∧ inHorizon (derived d))
    (hslice : ∀ d ∈ draws, s.InSlice (position d) (derived d) ∧ s.InEpoch (derived d))
    (hnonce : ∀ d ∈ draws, ∀ d' ∈ draws, nonceOf d = nonceOf d' → place d = place d')
    (hperm : plan.Perm (draws.filterMap f)) (hsorted : plan.Pairwise fun p q => fireAt p ≤ fireAt q) :
    HiddenPlan s inHorizon places place position derived tag fireAt nonce plan := by
  have hrecord : ∀ d ∈ draws, ∀ p ∈ f d, tag p = place d ∧ fireAt p = derived d ∧ nonce p = nonceOf d ∧
      inHorizon (derived d) := by
    intro d hd p hp
    have hp : f d = some p := hp
    rcases hfound d hd with ⟨hnone, -⟩ | ⟨q, hq, hrest⟩
    · rw [hnone] at hp
      cases hp
    · rw [hq] at hp
      obtain rfl := Option.some.inj hp
      exact hrest
  have htag : ∀ d ∈ draws, ∀ p ∈ f d, tag p = place d := fun d hd p hp => (hrecord d hd p hp).1
  refine ⟨hsorted, fun d hplaces => ?_, fun p hp => ?_, ?_⟩
  · have hd := (hdraws d).mpr hplaces
    have hfilter := filter_filterMap hnodup htag hd
    have hof := hperm.filter fun p => tag p = place d
    rw [hfilter] at hof
    rcases hfound d hd with ⟨hnone, hout⟩ | ⟨p, hp, -, hfire, -, hin⟩
    · rw [hnone] at hof
      exact Or.inr ⟨List.perm_nil.mp hof, hout⟩
    · rw [hp] at hof
      obtain ⟨hslice, hepoch⟩ := hslice d hd
      exact Or.inl ⟨p, List.perm_singleton.mp hof, hfire ▸ hslice, hfire ▸ hepoch, hfire ▸ hin⟩
  · obtain ⟨d, hd, hp⟩ := List.mem_filterMap.mp (hperm.mem_iff.mp hp)
    exact ⟨d, (hdraws d).mp hd, htag d hd p hp⟩
  · rw [(hperm.map nonce).nodup_iff]
    have hapart : draws.Pairwise fun d d' => place d ≠ place d' := List.pairwise_map.mp hnodup
    refine List.pairwise_map.mpr (List.Pairwise.filterMap f ?_ (List.Pairwise.and_mem.mp hapart))
    rintro d d' ⟨hd, hd', hne⟩ p hp q hq heq
    apply hne
    apply hnonce d hd d' hd'
    rw [← (hrecord d hd p hp).2.2.1, ← (hrecord d' hd' q hq).2.2.1]
    exact heq

end Pass

/-! ## Nonces -/

/-- Bytes are told from their digits. -/
lemma encode_inj {b b' : List ℕ} (hb : ∀ n ∈ b, n < 256) (hb' : ∀ n ∈ b', n < 256) (h : Hex.encode b = Hex.encode b') :
    b = b' := by
  have hdigit : ∀ m < 16, ∀ n < 16, Hex.digit m = Hex.digit n → m = n := by decide
  induction b generalizing b' with
  | nil =>
    cases b' with
    | nil => rfl
    | cons n b' => simp [Hex.encode] at h
  | cons m b ih =>
    cases b' with
    | nil => simp [Hex.encode] at h
    | cons n b' =>
      obtain ⟨hm, hb⟩ := List.forall_mem_cons.mp hb
      obtain ⟨hn, hb'⟩ := List.forall_mem_cons.mp hb'
      simp only [Hex.encode, List.flatMap_cons, List.cons_append, List.nil_append, List.cons.injEq] at h
      obtain ⟨hhigh, hlow, hrest⟩ := h
      have hhigh := hdigit _ (Nat.mod_lt _ (by decide)) _ (Nat.mod_lt _ (by decide)) hhigh
      have hlow := hdigit _ (Nat.mod_lt _ (by decide)) _ (Nat.mod_lt _ (by decide)) hlow
      rw [ih hb hb' hrest]
      congr 1
      omega

/-- Outputs of HMAC are told from their digits. -/
lemma hex_inj {mac mac' : Mac} (h : hex mac.toList = hex mac'.toList) : mac = mac' := by
  have hbytes : ∀ b : List UInt8, ∀ n ∈ b.map UInt8.toNat, n < 256 := by
    intro b n hn
    obtain ⟨byte, -, rfl⟩ := List.mem_map.mp hn
    exact UInt8.toNat_lt byte
  have hencode := congrArg String.toList h
  simp only [hex, String.toList_ofList] at hencode
  have hnumbers := encode_inj (hbytes _) (hbytes _) hencode
  have hlist : mac.toList = mac'.toList := (List.map_inj_right fun a b hab => UInt8.toNat_inj.mp hab).mp hnumbers
  exact Vector.toList_inj.mp hlist

/-- Contexts with the same keys are told from their messages. -/
lemma message_inj {domain : String} {context context' : List (String × Json)}
    (hkeys : context.map Prod.fst = context'.map Prod.fst) (hnodup : (context.map Prod.fst).Nodup)
    (hvalues : ∀ m ∈ context, m.2.WellKeyed) (hvalues' : ∀ m ∈ context', m.2.WellKeyed)
    (h : message domain context = message domain context') : context.map Prod.snd = context'.map Prod.snd := by
  have hbytes : canonicalJson (document context) = canonicalJson (document context') :=
    (List.cons.inj (List.append_cancel_left h)).2
  have hnodup' : (context'.map Prod.fst).Nodup := hkeys ▸ hnodup
  have hread := parse_canonicalJson (wellKeyed_document hnodup hvalues)
  rw [hbytes, parse_canonicalJson (wellKeyed_document hnodup' hvalues')] at hread
  have hmembers := memberValues_document_exact hnodup
  rw [← Option.some.inj hread, hkeys, memberValues_document_exact hnodup'] at hmembers
  exact (Option.some.inj hmembers).symm

lemma text_inj {a b : String} (h : text a = text b) : a = b := String.toList_inj.mp (Json.str.inj h)

/-- The places of items whose keys differ, a range of them each. -/
lemma nodup_places {R K : Type} {items : List R} {key : R → K} (hkeys : (items.map key).Nodup) (n : ℕ) :
    (items.flatMap fun r => (List.range n).map fun k : ℕ => (key r, (k : ℤ))).Nodup := by
  rw [List.nodup_flatMap]
  constructor
  · intro r _
    exact List.nodup_range.map fun a b hab => Int.ofNat.inj (Prod.mk.inj hab).2
  · refine (List.pairwise_map.mp hkeys).imp fun {r r'} hne => ?_
    intro x hx hx'
    obtain ⟨k, -, rfl⟩ := List.mem_map.mp hx
    obtain ⟨k', -, heq⟩ := List.mem_map.mp hx'
    exact hne (Prod.mk.inj heq).1.symm

/-! ## The plan of a manifest -/

section Organic

variable {hmac : List UInt8 → List UInt8 → Mac} {seed : List UInt8} {hotkey : String} {s : Schedule}
  {manifest : ActiveAssignmentManifestV2} {d : Draw}

/-- A place of the manifest: a replica of a deployment, and a position. -/
def Draw.Of (manifest : ActiveAssignmentManifestV2) (s : Schedule) (d : Draw) : Prop :=
  d.deployment ∈ manifest.deployments ∧ d.replica ∈ d.deployment.replicas ∧ d.position < s.probesPerEndpoint.toNat

/-- The incarnation and the position of a place. -/
def Draw.place (d : Draw) : (String × ℤ) × ℤ := ((d.replica.endpointID, d.replica.generation), d.position)

/-- The incarnation and the position of a record. -/
def PlannedProbe.place (p : PlannedProbe) : (String × ℤ) × ℤ := ((p.endpointID, p.generation), p.probeIndex)

/-- The messages the nonces of a plan are taken of. -/
def nonceMessages (s : Schedule) (hotkey : String) (manifest : ActiveAssignmentManifestV2) : Set (List UInt8) :=
  {m | ∃ d : Draw, d.Of manifest s ∧ m = message nonceDomain (d.context s hotkey manifest.manifestDigestSha256)}

/-- The planner returns a plan of the manifest. -/
def PlansManifest (hmac : List UInt8 → List UInt8 → Mac) (seed : List UInt8) (hotkey : String)
    (manifest : ActiveAssignmentManifestV2) (s : Schedule) : Prop :=
  ∃ plan, planHiddenProbes hmac seed hotkey manifest s = .ok plan ∧
    HiddenPlan s (InHorizon manifest) (Draw.Of manifest s) Draw.place Draw.position
      (fun d => d.fireAt hmac seed hotkey s manifest.manifestDigestSha256) PlannedProbe.place PlannedProbe.fireAtMillis
      PlannedProbe.nonce plan

lemma mem_draws : d ∈ draws s manifest ↔ d.Of manifest s := by
  simp only [draws, List.mem_flatMap, List.mem_map, Schedule.positions, List.mem_range, Draw.Of]
  constructor
  · rintro ⟨deployment, hdeployment, replica, hreplica, index, hindex, rfl⟩
    exact ⟨hdeployment, hreplica, hindex⟩
  · rintro ⟨hdeployment, hreplica, hindex⟩
    exact ⟨_, hdeployment, _, hreplica, _, hindex, rfl⟩

lemma nodup_draws (h : manifest.Valid) : ((draws s manifest).map Draw.place).Nodup := by
  have hids : (manifest.replicas.map OrganicAssignedReplica.endpointID).Nodup := by
    obtain ⟨-, -, -, -, -, -, -, -, -, -, -, -, -, -, -, -, -, -, -, hids, -⟩ := h
    exact hids
  have hkeys : (manifest.replicas.map fun r => (r.endpointID, r.generation)).Nodup := by
    refine List.Nodup.of_map Prod.fst ?_
    rw [List.map_map]
    exact hids
  have hplaces : (draws s manifest).map Draw.place = manifest.replicas.flatMap fun r =>
      (List.range s.probesPerEndpoint.toNat).map fun k : ℕ => ((r.endpointID, r.generation), (k : ℤ)) := by
    simp only [draws, Schedule.positions, ActiveAssignmentManifestV2.replicas, List.map_flatMap, List.map_map,
      List.flatMap_assoc]
    rfl
  rw [hplaces]
  exact nodup_places hkeys _

lemma Draw.wellKeyed_context (d : Draw) (s : Schedule) (hotkey digest : String) :
    ∀ m ∈ d.context s hotkey digest, m.2.WellKeyed := by
  simp [Draw.context, text, Json.WellKeyed]

lemma Draw.nodup_context (d : Draw) (s : Schedule) (hotkey digest : String) :
    ((d.context s hotkey digest).map Prod.fst).Nodup := by
  simp [Draw.context]

/-- Nonces are alike for one place only. -/
lemma Draw.nonce_inj (hinj : Set.InjOn (hmac seed) (nonceMessages s hotkey manifest)) {d d' : Draw}
    (hd : d.Of manifest s) (hd' : d'.Of manifest s)
    (h : (d.planned hmac seed hotkey s manifest.manifestDigestSha256).nonce =
      (d'.planned hmac seed hotkey s manifest.manifestDigestSha256).nonce) : d.place = d'.place := by
  have hmessage := hinj ⟨d, hd, rfl⟩ ⟨d', hd', rfl⟩ (hex_inj h)
  have hkeys : (d.context s hotkey manifest.manifestDigestSha256).map Prod.fst =
      (d'.context s hotkey manifest.manifestDigestSha256).map Prod.fst := rfl
  have hvalues := message_inj hkeys (d.nodup_context _ _ _) (d.wellKeyed_context _ _ _) (d'.wellKeyed_context _ _ _)
    hmessage
  simp only [Draw.context, List.map_cons, List.map_nil, List.cons.injEq, Json.num.injEq, true_and, and_true] at hvalues
  obtain ⟨hid, hgeneration, hposition⟩ := hvalues
  rw [Draw.place, Draw.place, text_inj hid, hgeneration, hposition]

/-- The record of a place of a valid manifest is valid unless its instant is out of range. -/
lemma Draw.planned_valid_iff (hs : s.Accepted) (hm : manifest.Valid) (hd : d.Of manifest s) (digest : String) :
    (d.planned hmac seed hotkey s digest).Valid ↔ d.fireAt hmac seed hotkey s digest ≤ maxEpochMillis := by
  constructor
  · rintro ⟨-, -, -, -, -, hfire, -⟩
    exact hfire.2
  · intro hmax
    obtain ⟨hdeployment, hreplica, hposition⟩ := hd
    obtain ⟨-, -, -, -, -, -, -, -, -, -, -, -, hdeployments, -⟩ := hm
    obtain ⟨hlabel, -, -, ⟨hpath, -⟩, -, -, hreplicas, -⟩ := hdeployments _ hdeployment
    obtain ⟨-, -, -, -, hgeneration, -, -, hid, -⟩ := hreplicas _ hreplica
    have hlast := hs.1.2.2
    refine ⟨hlabel, hid, hgeneration, hpath, ?_, ⟨(Schedule.slice_bounds hs hposition _).2.2, hmax⟩, hex64_mac _⟩
    change (0 : ℤ) ≤ d.position ∧ (d.position : ℤ) ≤ 63
    omega

/-- **The plan of a manifest**: the planner returns one exactly when no instant of the horizon is out of range. -/
theorem plansManifest_iff (hseed : seed.length = probeSeedBytes) (hs : s.Accepted) (hm : manifest.Valid)
    (hinj : Set.InjOn (hmac seed) (nonceMessages s hotkey manifest)) :
    PlansManifest hmac seed hotkey manifest s ↔ ∀ d : Draw, d.Of manifest s →
      InHorizon manifest (d.fireAt hmac seed hotkey s manifest.manifestDigestSha256) →
        d.fireAt hmac seed hotkey s manifest.manifestDigestSha256 ≤ maxEpochMillis := by
  have hprobe : ∀ d : Draw, d.Of manifest s →
      (¬ InHorizon manifest (d.fireAt hmac seed hotkey s manifest.manifestDigestSha256) ∧
        d.probe hmac seed hotkey s manifest = .ok none) ∨
      InHorizon manifest (d.fireAt hmac seed hotkey s manifest.manifestDigestSha256) ∧
        d.probe hmac seed hotkey s manifest =
          if d.fireAt hmac seed hotkey s manifest.manifestDigestSha256 ≤ maxEpochMillis then
            .ok (some (d.planned hmac seed hotkey s manifest.manifestDigestSha256))
          else .error .validation := by
    intro d hd
    unfold Draw.probe
    by_cases hin : InHorizon manifest (d.fireAt hmac seed hotkey s manifest.manifestDigestSha256)
    · refine Or.inr ⟨hin, ?_⟩
      rw [if_pos hin]
      simp only [d.planned_valid_iff hs hm hd, Except.reject]
      by_cases hmax : d.fireAt hmac seed hotkey s manifest.manifestDigestSha256 ≤ maxEpochMillis
      · rw [if_pos hmax, if_neg (not_not.mpr hmax)]
        rfl
      · rw [if_neg hmax, if_pos hmax]
        rfl
    · exact Or.inl ⟨hin, by rw [if_neg hin]; rfl⟩
  have hpass : ∀ plan, planHiddenProbes hmac seed hotkey manifest s = .ok plan ↔ ∃ passed,
      planEach (Draw.probe hmac seed hotkey s manifest) (draws s manifest) = .ok passed ∧
        plan = Sorting.sortOn PlannedProbe.key passed := by
    intro plan
    simp only [planHiddenProbes, validateSeed, Except.bind_eq_ok, Except.reject_eq_ok, Schedule.check_eq_ok, ne_eq,
      not_not, pure, Except.pure, Except.ok.injEq]
    constructor
    · rintro ⟨_, -, _, -, _, -, passed, hpassed, rfl⟩
      exact ⟨passed, hpassed, rfl⟩
    · rintro ⟨passed, hpassed, rfl⟩
      exact ⟨(), hseed, (), hs, (), hm, passed, hpassed, rfl⟩
  constructor
  · rintro ⟨plan, hplan, -⟩ d hd hin
    obtain ⟨passed, heach, -⟩ := (hpass plan).mp hplan
    obtain ⟨planned, hplanned⟩ := (planEach_eq_ok.mp heach).1 d (mem_draws.mpr hd)
    rcases hprobe d hd with ⟨hout, -⟩ | ⟨-, hresult⟩
    · exact absurd hin hout
    · by_contra hmax
      rw [hresult, if_neg hmax] at hplanned
      cases hplanned
  · intro hrange
    have hall : ∀ d ∈ draws s manifest, ∃ planned, Draw.probe hmac seed hotkey s manifest d = .ok planned := by
      intro d hd
      have hd := mem_draws.mp hd
      rcases hprobe d hd with ⟨-, hresult⟩ | ⟨hin, hresult⟩
      · exact ⟨_, hresult⟩
      · rw [if_pos (hrange d hd hin)] at hresult
        exact ⟨_, hresult⟩
    refine ⟨_, (hpass _).mpr ⟨_, planEach_eq_ok.mpr ⟨hall, rfl⟩, rfl⟩, ?_⟩
    refine hiddenPlan_of_pass (fun d => (d.planned hmac seed hotkey s manifest.manifestDigestSha256).nonce)
      (fun d => mem_draws) (nodup_draws hm) (fun d hd => ?_) (fun d hd => ?_) (fun d hd d' hd' h => ?_)
      (Sorting.sortOn_perm _ _) ?_
    · have hd := mem_draws.mp hd
      rcases hprobe d hd with ⟨hout, hresult⟩ | ⟨hin, hresult⟩
      · exact Or.inl ⟨by rw [found, hresult], hout⟩
      · rw [if_pos (hrange d hd hin)] at hresult
        exact Or.inr ⟨_, by rw [found, hresult], rfl, rfl, rfl, hin⟩
    · obtain ⟨hslice, hepoch, -⟩ := Schedule.slice_bounds hs (mem_draws.mp hd).2.2 _
      exact ⟨hslice, hepoch⟩
    · exact Draw.nonce_inj hinj (mem_draws.mp hd) (mem_draws.mp hd') h
    · refine List.Pairwise.imp ?_ (Sorting.pairwise_sortOn PlannedProbe.key _)
      intro p q hpq
      exact (Prod.Lex.toLex_le_toLex'.mp hpq).1

end Organic

/-! ## The plan of the verified indexes -/

section Static

variable {hmac : List UInt8 → List UInt8 → Mac} {seed : List UInt8} {hotkey : String} {s : Schedule}
  {indexes : List AuthenticatedIndex} {horizon : Horizon} {ceiling : ℤ} {d : StaticDraw}

/-- A place of the indexes: an endpoint of a site, and a position. -/
def StaticDraw.Of (indexes : List AuthenticatedIndex) (s : Schedule) (d : StaticDraw) : Prop :=
  d.index ∈ indexes ∧ d.endpoint ∈ d.index.target.endpoints ∧ d.position < s.probesPerEndpoint.toNat

/-- The incarnation and the position of a place. -/
def StaticDraw.place (d : StaticDraw) : (String × String × ℤ) × ℤ :=
  ((d.index.target.siteDigest, d.endpoint.endpointID, d.endpoint.generation), d.position)

/-- The incarnation and the position of a record. -/
def PlannedStaticProbe.place (p : PlannedStaticProbe) : (String × String × ℤ) × ℤ :=
  ((p.siteDigest, p.endpointID, p.generation), p.probeIndex)

/-- The endpoint incarnations of the indexes. -/
def incarnations (indexes : List AuthenticatedIndex) : List (String × String × ℤ) :=
  indexes.flatMap fun index => index.target.endpoints.map fun endpoint =>
    (index.target.siteDigest, endpoint.endpointID, endpoint.generation)

/-- The messages the nonces of a static plan are taken of. -/
def staticNonceMessages (s : Schedule) (hotkey : String) (indexes : List AuthenticatedIndex) : Set (List UInt8) :=
  {m | ∃ d : StaticDraw, d.Of indexes s ∧ m = message hiddenDomain (d.context s hotkey "nonce")}

/-- The planner returns a plan of the indexes, and each of its probes asks its site for something expected. -/
def PlansIndexes (hmac : List UInt8 → List UInt8 → Mac) (seed : List UInt8) (hotkey : String)
    (indexes : List AuthenticatedIndex) (s : Schedule) (horizon : Horizon) (ceiling : ℤ) : Prop :=
  ∃ plan, planStaticHiddenProbes hmac seed hotkey indexes s horizon ceiling = .ok plan ∧
    HiddenPlan s horizon.Holds (StaticDraw.Of indexes s) StaticDraw.place StaticDraw.position
      (fun d => d.fireAt hmac seed hotkey s) PlannedStaticProbe.place (fun p => p.fireAtMillis.getD 0)
      PlannedStaticProbe.nonce plan ∧
    ∀ p ∈ plan, ∃ index ∈ indexes, index.target.siteDigest = p.siteDigest ∧ Asks index ceiling p

lemma mem_staticDraws : d ∈ staticDraws s indexes ↔ d.Of indexes s := by
  simp only [staticDraws, List.mem_flatMap, List.mem_map, Schedule.positions, List.mem_range, StaticDraw.Of]
  constructor
  · rintro ⟨index, hindex, endpoint, hendpoint, position, hposition, rfl⟩
    exact ⟨hindex, hendpoint, hposition⟩
  · rintro ⟨hindex, hendpoint, hposition⟩
    exact ⟨_, hindex, _, hendpoint, _, hposition, rfl⟩

lemma nodup_staticDraws (h : (incarnations indexes).Nodup) : ((staticDraws s indexes).map StaticDraw.place).Nodup := by
  have hplaces : (staticDraws s indexes).map StaticDraw.place = (incarnations indexes).flatMap fun incarnation =>
      (List.range s.probesPerEndpoint.toNat).map fun k : ℕ => (incarnation, (k : ℤ)) := by
    simp only [staticDraws, Schedule.positions, incarnations, List.map_flatMap, List.map_map, List.flatMap_assoc,
      List.flatMap_map]
    rfl
  rw [hplaces]
  exact nodup_places (by rwa [List.map_id']) _

lemma StaticDraw.wellKeyed_context (d : StaticDraw) (s : Schedule) (hotkey purpose : String) :
    ∀ m ∈ d.context s hotkey purpose, m.2.WellKeyed := by
  simp [StaticDraw.context, text, Json.WellKeyed]

lemma StaticDraw.nodup_context (d : StaticDraw) (s : Schedule) (hotkey purpose : String) :
    ((d.context s hotkey purpose).map Prod.fst).Nodup := by
  simp [StaticDraw.context]

/-- Nonces are alike for one place only. -/
lemma StaticDraw.nonce_inj (hinj : Set.InjOn (hmac seed) (staticNonceMessages s hotkey indexes)) {d d' : StaticDraw}
    (hd : d.Of indexes s) (hd' : d'.Of indexes s) (h : d.nonce hmac seed hotkey s = d'.nonce hmac seed hotkey s) :
    d.place = d'.place := by
  have hmessage := hinj ⟨d, hd, rfl⟩ ⟨d', hd', rfl⟩ (hex_inj h)
  have hkeys : (d.context s hotkey "nonce").map Prod.fst = (d'.context s hotkey "nonce").map Prod.fst := rfl
  have hvalues := message_inj hkeys (d.nodup_context _ _ _) (d.wellKeyed_context _ _ _) (d'.wellKeyed_context _ _ _)
    hmessage
  simp only [StaticDraw.context, List.map_cons, List.map_nil, List.cons.injEq, Json.num.injEq, true_and,
    and_true] at hvalues
  obtain ⟨hid, hgeneration, hposition, hsite⟩ := hvalues
  rw [StaticDraw.place, StaticDraw.place, text_inj hid, hgeneration, hposition, text_inj hsite]

/-- **The plan of the indexes**: the planner returns one exactly when no instant of the horizon is out of range
and no place of the horizon draws a route with an unescaped space. -/
theorem plansIndexes_iff (hseed : seed.length = probeSeedBytes) (hs : s.Accepted)
    (hceiling : 1 ≤ ceiling ∧ ceiling ≤ hiddenProbeCeilingBytes) (hverified : ∀ index ∈ indexes, index.Verified)
    (hdistinct : (incarnations indexes).Nodup)
    (hinj : Set.InjOn (hmac seed) (staticNonceMessages s hotkey indexes)) :
    PlansIndexes hmac seed hotkey indexes s horizon ceiling ↔ ∀ d : StaticDraw, d.Of indexes s →
      horizon.Holds (d.fireAt hmac seed hotkey s) → d.fireAt hmac seed hotkey s ≤ maxEpochMillis ∧
        ¬ SpacedRoute d.index (d.requestMac hmac seed hotkey s) := by
  have hslice : ∀ d : StaticDraw, d.Of indexes s → _ := fun d hd =>
    Schedule.slice_bounds hs hd.2.2 (d.mac hmac seed s hotkey "time")
  have hprobe := fun (d : StaticDraw) (hd : d.Of indexes s) =>
    StaticDraw.probe_cases ceiling hmac seed hotkey horizon ⟨hverified _ hd.1, hd.2.1⟩
      (by have hmost := hs.1.2.2; have hlast := hd.2.2; omega) (hslice d hd).2.2
  have hpass : ∀ plan, planStaticHiddenProbes hmac seed hotkey indexes s horizon ceiling = .ok plan ↔ ∃ passed,
      planEach (StaticDraw.probe hmac seed hotkey s horizon ceiling) (staticDraws s indexes) = .ok passed ∧
        plan = Sorting.sortOn PlannedStaticProbe.key passed := by
    intro plan
    simp only [planStaticHiddenProbes, validateSeed, Except.bind_eq_ok, Except.reject_eq_ok, Schedule.check_eq_ok, ne_eq,
      not_not, pure, Except.pure, Except.ok.injEq]
    constructor
    · rintro ⟨_, -, _, -, _, -, passed, hpassed, rfl⟩
      exact ⟨passed, hpassed, rfl⟩
    · rintro ⟨passed, hpassed, rfl⟩
      exact ⟨(), hseed, (), hs, (), hceiling, passed, hpassed, rfl⟩
  constructor
  · rintro ⟨plan, hplan, -⟩ d hd hin
    obtain ⟨passed, heach, -⟩ := (hpass plan).mp hplan
    obtain ⟨planned, hplanned⟩ := (planEach_eq_ok.mp heach).1 d (mem_staticDraws.mpr hd)
    rcases hprobe d hd with ⟨hout, -⟩ | ⟨-, ⟨hmax, hspaced, -⟩ | ⟨-, error, herror⟩⟩
    · exact absurd hin hout
    · exact ⟨hmax, hspaced⟩
    · rw [herror] at hplanned
      cases hplanned
  · intro hgood
    -- what a place adds
    have hfound : ∀ d : StaticDraw, d.Of indexes s →
        (d.probe hmac seed hotkey s horizon ceiling = .ok none ∧ ¬ horizon.Holds (d.fireAt hmac seed hotkey s)) ∨
          ∃ p, d.probe hmac seed hotkey s horizon ceiling = .ok (some p) ∧
            Records d (d.fireAt hmac seed hotkey s) ceiling (d.nonce hmac seed hotkey s) p ∧
            horizon.Holds (d.fireAt hmac seed hotkey s) := by
      intro d hd
      rcases hprobe d hd with ⟨hout, hresult⟩ | ⟨hin, ⟨-, -, p, hp, hrecords⟩ | ⟨hbad, -⟩⟩
      · exact Or.inl ⟨hresult, hout⟩
      · exact Or.inr ⟨p, hp, hrecords, hin⟩
      · exact absurd (hgood d hd hin) hbad
    have hall : ∀ d ∈ staticDraws s indexes, ∃ planned, StaticDraw.probe hmac seed hotkey s horizon ceiling d = .ok planned := by
      intro d hd
      rcases hfound d (mem_staticDraws.mp hd) with ⟨hresult, -⟩ | ⟨p, hp, -⟩
      · exact ⟨_, hresult⟩
      · exact ⟨_, hp⟩
    refine ⟨_, (hpass _).mpr ⟨_, planEach_eq_ok.mpr ⟨hall, rfl⟩, rfl⟩, ?_, ?_⟩
    · refine hiddenPlan_of_pass (fun d => d.nonce hmac seed hotkey s)
        (fun d => mem_staticDraws) (nodup_staticDraws hdistinct) (fun d hd => ?_) (fun d hd => ?_)
        (fun d hd d' hd' h => ?_) (Sorting.sortOn_perm _ _) ?_
      · rcases hfound d (mem_staticDraws.mp hd) with ⟨hresult, hout⟩ | ⟨p, hp, hrecords, hin⟩
        · exact Or.inl ⟨by rw [found, hresult], hout⟩
        · refine Or.inr ⟨p, by rw [found, hp], ?_, ?_, hrecords.nonce, hin⟩
          · rw [PlannedStaticProbe.place, StaticDraw.place, hrecords.site, hrecords.endpoint, hrecords.generation,
              hrecords.position]
          · rw [hrecords.fireAt]
            rfl
      · obtain ⟨hslice, hepoch, -⟩ := hslice d (mem_staticDraws.mp hd)
        exact ⟨hslice, hepoch⟩
      · exact StaticDraw.nonce_inj hinj (mem_staticDraws.mp hd) (mem_staticDraws.mp hd') h
      · refine List.Pairwise.imp ?_ (Sorting.pairwise_sortOn PlannedStaticProbe.key _)
        intro p q hpq
        exact (Prod.Lex.toLex_le_toLex'.mp hpq).1
    · intro p hp
      obtain ⟨d, hd, hfoundp⟩ := List.mem_filterMap.mp (Sorting.mem_sortOn.mp hp)
      have hd := mem_staticDraws.mp hd
      rcases hfound d hd with ⟨hresult, -⟩ | ⟨q, hq, hrecords, -⟩
      · rw [found, hresult] at hfoundp
        cases hfoundp
      · rw [found, hq] at hfoundp
        obtain rfl := Option.some.inj hfoundp
        exact ⟨d.index, hd.1, hrecords.site.symm, hrecords.asks⟩

end Static

/-- **Hidden plans.** For every seed, epoch and slicing the planners accept, whatever HMAC gives if only the nonces
of a plan have different inputs and outputs: the plan of a valid manifest is as promised exactly when no instant
of the horizon is out of range; the plan of verified indexes, exactly when moreover no place of the horizon draws
a route with an unescaped space. -/
theorem hidden_plans_iff (hmac : List UInt8 → List UInt8 → Mac) (seed : List UInt8) (hotkey : String) (s : Schedule)
    (hseed : seed.length = probeSeedBytes) (hs : s.Accepted) :
    (∀ manifest : ActiveAssignmentManifestV2, manifest.Valid →
      Set.InjOn (hmac seed) (nonceMessages s hotkey manifest) →
        (PlansManifest hmac seed hotkey manifest s ↔ ∀ d : Draw, d.Of manifest s →
          InHorizon manifest (d.fireAt hmac seed hotkey s manifest.manifestDigestSha256) →
            d.fireAt hmac seed hotkey s manifest.manifestDigestSha256 ≤ maxEpochMillis)) ∧
      ∀ (indexes : List AuthenticatedIndex) (horizon : Horizon) (ceiling : ℤ),
        1 ≤ ceiling ∧ ceiling ≤ hiddenProbeCeilingBytes → (∀ index ∈ indexes, index.Verified) →
        (incarnations indexes).Nodup → Set.InjOn (hmac seed) (staticNonceMessages s hotkey indexes) →
          (PlansIndexes hmac seed hotkey indexes s horizon ceiling ↔ ∀ d : StaticDraw, d.Of indexes s →
            horizon.Holds (d.fireAt hmac seed hotkey s) → d.fireAt hmac seed hotkey s ≤ maxEpochMillis ∧
              ¬ SpacedRoute d.index (d.requestMac hmac seed hotkey s)) := by
  constructor
  · intro manifest hm hinj
    exact plansManifest_iff hseed hs hm hinj
  · intro indexes horizon ceiling hceiling hverified hdistinct hinj
    exact plansIndexes_iff hseed hs hceiling hverified hdistinct hinj

namespace Sample

/-- HMAC-SHA256 with a key of at most one block. -/
def hmacSha256 (key message : List UInt8) : Mac :=
  let block := key ++ List.replicate (64 - key.length) 0
  let inner := Sha256.sum256 (((block.map fun byte => byte ^^^ 0x36) ++ message).map UInt8.toNat)
  let outer := Sha256.sum256 ((block.map fun byte => byte ^^^ 0x5c).map UInt8.toNat ++ inner)
  Vector.ofFn fun i => UInt8.ofNat (outer.getD i 0)

def seed : List UInt8 := List.replicate 32 2

/-- The epoch 1, in one slice. -/
def schedule : Schedule := ⟨1, 300, 1⟩

def horizon : Horizon := ⟨0, 10000000000⟩

lemma target_valid : target.Valid :=
  ⟨by decide, by decide, sha256Digest_replicate (by decide), sha256Digest_replicate (by decide),
    sha256Digest_replicate (by decide), by decide, List.forall_mem_singleton.mpr ⟨by decide, by decide, by decide,
      by decide, hex64_replicate (by decide), sha256Digest_replicate (by decide)⟩, List.nodup_singleton _⟩

lemma index_verified : index.Verified := ⟨by decide, rfl, target_valid, hex64_replicate (by decide)⟩

lemma manifest_subsingleton : (nonceMessages schedule "validator" Organic.Sample.manifest).Subsingleton := by
  have hone : ∀ d : Draw, d ∈ draws schedule Organic.Sample.manifest → ∃ e, draws schedule Organic.Sample.manifest = [e] ∧ d = e := by
    intro d hd
    exact ⟨_, rfl, List.mem_singleton.mp hd⟩
  rintro m ⟨d, hd, rfl⟩ m' ⟨d', hd', rfl⟩
  obtain ⟨e, he, rfl⟩ := hone d (mem_draws.mpr hd)
  have hd' := mem_draws.mpr hd'
  rw [he] at hd'
  rw [List.mem_singleton.mp hd']

/-- One endpoint and one slice have one nonce. -/
lemma indexes_subsingleton (site : AuthenticatedIndex) (hsite : site.target.endpoints.length = 1) :
    (staticNonceMessages schedule "validator" [site]).Subsingleton := by
  obtain ⟨endpoint, hendpoint⟩ := List.length_eq_one_iff.mp hsite
  have hone : ∀ d : StaticDraw, d.Of [site] schedule → d = ⟨site, endpoint, 0⟩ := by
    rintro ⟨index, target, position⟩ ⟨hindex, htarget, hposition⟩
    have hindex : index = site := List.mem_singleton.mp hindex
    subst hindex
    have htarget : target ∈ index.target.endpoints := htarget
    rw [hendpoint] at htarget
    have hposition : position < 1 := hposition
    rw [List.mem_singleton.mp htarget, Nat.lt_one_iff.mp hposition]
  rintro m ⟨d, hd, rfl⟩ m' ⟨d', hd', rfl⟩
  rw [hone d hd, hone d' hd']

/-- A site with an unescaped space in a path. -/
def spacedSite : Static.Manifest where
  fallback := none
  files :=
    [⟨List.replicate 64 'a', 1, Static.octetStream, "/a b".toList⟩, ⟨List.replicate 64 'b', 1, Static.htmlType, Static.indexPath⟩]
  handler := Static.handlerVersion
  schema := Static.manifestSchema
  schemaVersion := 1

/-- The index of the site, under the digest of its canonical bytes. -/
def spacedIndex : AuthenticatedIndex where
  toVerifiedStaticIndex := StaticIndex.verified spacedSite
  target := { target with siteDigest := "sha256:9ff4b2d3a096bb8feca06c009ac5e40cadc1f379d000b7d193b35f11d640acf1" }
  trustPolicyDigestSha256 := String.ofList (List.replicate 64 'f')

lemma spacedIndex_verified : spacedIndex.Verified := by
  obtain ⟨hdeployment, hhost, -, hrest⟩ := target_valid
  exact ⟨by decide, rfl, ⟨hdeployment, hhost, by decide, hrest⟩, hex64_replicate (by decide)⟩

/-- The one place of the site. -/
def spacedDraw : StaticDraw where
  index := spacedIndex
  endpoint :=
    { endpointID := "endpoint"
      generation := 1
      minerUID := 7
      minerHotkey := "miner"
      minerServicePublicKey := String.ofList (List.replicate 64 'd')
      ticketDigest := "sha256:" ++ String.ofList (List.replicate 64 'e') }
  position := 0

lemma spacedDraw_of : spacedDraw.Of [spacedIndex] schedule :=
  ⟨List.mem_singleton_self _, List.mem_singleton_self _, by decide⟩

/-- What the selector of the place is under HMAC-SHA256. -/
def spacedMac : Mac :=
  #v[242, 21, 254, 21, 114, 185, 249, 215, 55, 243, 191, 65, 133, 179, 193, 78, 189, 123, 27, 70, 9, 3, 30, 232, 5,
    163, 136, 107, 174, 183, 120, 202]

lemma requestMac_spaced : spacedDraw.requestMac hmacSha256 seed "validator" schedule = spacedMac := by
  rw [StaticDraw.requestMac, StaticDraw.mac, hmacSha256]
  simp only [Sha256.sum256_eq_numeral]
  decide +kernel

/-- The route of the place is the path with the space. -/
lemma spacedRoute : SpacedRoute spacedIndex spacedMac := by
  constructor
  · decide
  · decide

end Sample

/-- The plans of a manifest of one replica and of a site of one document. -/
theorem hidden_plans_sample :
    (PlansManifest Sample.hmacSha256 Sample.seed "validator" Organic.Sample.manifest Sample.schedule ↔
        ∀ d : Draw, d.Of Organic.Sample.manifest Sample.schedule →
          InHorizon Organic.Sample.manifest (d.fireAt Sample.hmacSha256 Sample.seed "validator" Sample.schedule
            Organic.Sample.manifest.manifestDigestSha256) →
              d.fireAt Sample.hmacSha256 Sample.seed "validator" Sample.schedule
                Organic.Sample.manifest.manifestDigestSha256 ≤ maxEpochMillis) ∧
      (PlansIndexes Sample.hmacSha256 Sample.seed "validator" [Sample.index] Sample.schedule Sample.horizon 1048576 ↔
        ∀ d : StaticDraw, d.Of [Sample.index] Sample.schedule →
          Sample.horizon.Holds (d.fireAt Sample.hmacSha256 Sample.seed "validator" Sample.schedule) →
            d.fireAt Sample.hmacSha256 Sample.seed "validator" Sample.schedule ≤ maxEpochMillis ∧
              ¬ SpacedRoute d.index (d.requestMac Sample.hmacSha256 Sample.seed "validator" Sample.schedule)) := by
  obtain ⟨hmanifest, hindexes⟩ :=
    hidden_plans_iff Sample.hmacSha256 Sample.seed "validator" Sample.schedule (List.length_replicate ..) (by decide)
  constructor
  · exact hmanifest Organic.Sample.manifest Organic.Sample.manifest_valid (Sample.manifest_subsingleton.injOn _)
  · exact hindexes [Sample.index] Sample.horizon 1048576 (by decide)
      (List.forall_mem_singleton.mpr Sample.index_verified) (List.nodup_singleton _)
      ((Sample.indexes_subsingleton _ rfl).injOn _)

/-- A verified index of which no plan is made: the selector of its one place draws the route with the space. -/
theorem no_plan_of_spaced_route :
    Sample.seed.length = probeSeedBytes ∧ Sample.schedule.Accepted ∧ Sample.spacedIndex.Verified ∧
      (incarnations [Sample.spacedIndex]).Nodup ∧
      Set.InjOn (Sample.hmacSha256 Sample.seed) (staticNonceMessages Sample.schedule "validator" [Sample.spacedIndex]) ∧
      ¬ PlansIndexes Sample.hmacSha256 Sample.seed "validator" [Sample.spacedIndex] Sample.schedule Sample.horizon
        1048576 := by
  have hseed : Sample.seed.length = probeSeedBytes := List.length_replicate ..
  have hs : Sample.schedule.Accepted := by decide
  have hdistinct : (incarnations [Sample.spacedIndex]).Nodup := List.nodup_singleton _
  have hinj := (Sample.indexes_subsingleton Sample.spacedIndex rfl).injOn (Sample.hmacSha256 Sample.seed)
  refine ⟨hseed, hs, Sample.spacedIndex_verified, hdistinct, hinj, ?_⟩
  rw [plansIndexes_iff hseed hs (by decide) (List.forall_mem_singleton.mpr Sample.spacedIndex_verified) hdistinct hinj]
  intro hgood
  -- every instant of the epoch lies in the horizon
  have hholds : Sample.horizon.Holds (Sample.spacedDraw.fireAt Sample.hmacSha256 Sample.seed "validator" Sample.schedule) := by
    obtain ⟨-, hepoch, -⟩ := Schedule.slice_bounds hs Sample.spacedDraw_of.2.2
      (Sample.spacedDraw.mac Sample.hmacSha256 Sample.seed Sample.schedule "validator" "time")
    have hends : Sample.schedule.epochStart = 300000 ∧ Sample.schedule.epochEnd = 600000 := by decide
    simp only [Schedule.InEpoch, hends] at hepoch
    change 0 ≤ Sample.schedule.fireAt _ _ ∧ Sample.schedule.fireAt _ _ < 10000000000000
    omega
  have hspaced := (hgood Sample.spacedDraw Sample.spacedDraw_of hholds).2
  rw [Sample.requestMac_spaced] at hspaced
  exact hspaced Sample.spacedRoute

end Probe

end Misscomputer
