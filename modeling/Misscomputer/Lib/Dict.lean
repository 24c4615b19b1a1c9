import Mathlib.Algebra.BigOperators.Group.List.Basic
import Mathlib.Algebra.GroupWithZero.Nat
import Mathlib.Data.List.Induction
import Mathlib.Data.List.Nodup
import Mathlib.Tactic.Lemma
import Misscomputer.Lib.Sorting

set_option relaxedAutoImplicit false
set_option autoImplicit false

/-!
# Dictionaries in insertion order

A dictionary is the list of its entries, in the order in which their keys were first inserted. Loops fill a
dictionary record by record; the lemmas say what such a loop has stored under a key, namely what the records
of that key alone would have stored.

## Main definitions

* `Dict.get`, `Dict.set`, `Dict.keys` — lookup, assignment and the keys.
* `Dict.collect` — the dictionary a loop fills, one record at a time, under the record's key.
* `Dict.firsts` — `setdefault` over a list of entries: the first value of each key.
* `Dict.lasts` — assignment over a list of entries: the last value of each key.
* `Dict.OneToOne` — a list of entries pairs keys and values one to one.

## Main results

* `Dict.get_collect` — what a loop has stored under a key.
* `Dict.agrees_iff` — the check that a loop makes with two `setdefault` dictionaries, one for each
  direction, keeps the entries one to one.
-/

/-- The entries of a dictionary, in insertion order. -/
abbrev Dict (κ ν : Type) : Type := List (κ × ν)

namespace Dict

variable {α κ ν : Type} [DecidableEq κ]

/-- `d.get(k)`. -/
def get (d : Dict κ ν) (k : κ) : Option ν := List.lookup k d

/-- The keys, in insertion order. -/
def keys (d : Dict κ ν) : List κ := d.map Prod.fst

/-- `d[k] = v`: an assignment in place, or a new entry. -/
def set (d : Dict κ ν) (k : κ) (v : ν) : Dict κ ν :=
  if k ∈ d.keys then d.map fun e => if e.1 = k then (k, v) else e else d ++ [(k, v)]

variable {d : Dict κ ν} {k k' : κ} {v : ν}

@[simp] lemma get_nil : get ([] : Dict κ ν) k = none := rfl

omit [DecidableEq κ] in
@[simp] lemma keys_nil : keys ([] : Dict κ ν) = [] := rfl

lemma get_cons (e : κ × ν) : get (e :: d) k = if k = e.1 then some e.2 else get d k := by
  rw [get, List.lookup_cons]
  by_cases h : k = e.1
  · simp [h]
  · rw [beq_false_of_ne h, if_neg h, get]

/-- A key is stored when it has a value. -/
lemma mem_keys_iff : k ∈ d.keys ↔ (d.get k).isSome = true := by
  induction d with
  | nil => simp
  | cons e d ih =>
    rw [get_cons, keys, List.map_cons, List.mem_cons]
    by_cases h : k = e.1
    · simp [h]
    · rw [if_neg h, ← ih]
      exact or_iff_right h

lemma get_eq_none_iff : d.get k = none ↔ k ∉ d.keys := by
  rw [mem_keys_iff, Option.not_isSome_iff_eq_none]

lemma get_append_of_not_mem (h : k ∉ d.keys) : get (d ++ [(k, v)]) k' =
    if k' = k then some v else get d k' := by
  induction d with
  | nil => simp [get_cons]
  | cons e d ih =>
    rw [keys, List.map_cons, List.mem_cons, not_or] at h
    rw [List.cons_append, get_cons, get_cons, ih h.2]
    by_cases he : k' = e.1
    · have hne : k' ≠ k := fun hk => h.1 (hk ▸ he)
      simp [he, he ▸ hne]
    · simp [he]

lemma get_map_of_mem (h : k ∈ d.keys) :
    get (d.map fun e => if e.1 = k then (k, v) else e) k' = if k' = k then some v else get d k' := by
  induction d with
  | nil => cases h
  | cons e d ih =>
    rw [List.map_cons, get_cons, get_cons]
    by_cases he : e.1 = k
    · by_cases hk : k' = k
      · simp [he, hk]
      · have hrest : get (d.map fun e => if e.1 = k then (k, v) else e) k' = get d k' := by
          by_cases hmem : k ∈ keys d
          · rw [ih hmem, if_neg hk]
          · have hsame : (d.map fun e => if e.1 = k then (k, v) else e) = d := by
              refine (List.map_congr_left fun e hd => ?_).trans d.map_id
              rw [if_neg, id]
              rintro rfl
              exact hmem (List.mem_map_of_mem hd)
            rw [hsame]
        simp [he, hk, hrest]
    · have hmem : k ∈ keys d := by
        rw [keys, List.map_cons, List.mem_cons] at h
        exact h.resolve_left (Ne.symm he)
      rw [if_neg he, ih hmem]
      by_cases hk : k' = e.1
      · have hne : k' ≠ k := fun heq => he (hk ▸ heq)
        simp [hk, hk ▸ hne]
      · simp [hk]

/-- **What an assignment stores.** -/
@[simp] theorem get_set : (d.set k v).get k' = if k' = k then some v else d.get k' := by
  rw [set]
  by_cases h : k ∈ d.keys
  · rw [if_pos h, get_map_of_mem h]
  · rw [if_neg h, get_append_of_not_mem h]

/-- An assignment keeps the keys in place, and may add its own at the end. -/
lemma keys_set : (d.set k v).keys = if k ∈ d.keys then d.keys else d.keys ++ [k] := by
  rw [set]
  by_cases h : k ∈ d.keys
  · rw [if_pos h, if_pos h, keys, List.map_map]
    apply List.map_congr_left
    intro e _
    by_cases he : e.1 = k <;> simp [he]
  · rw [if_neg h, if_neg h, keys, List.map_append]
    rfl

lemma mem_keys_set : k' ∈ (d.set k v).keys ↔ k' = k ∨ k' ∈ d.keys := by
  rw [keys_set]
  by_cases h : k ∈ d.keys
  · rw [if_pos h]
    constructor
    · exact Or.inr
    · rintro (rfl | hk)
      · exact h
      · exact hk
  · rw [if_neg h, List.mem_append, List.mem_singleton]
    exact or_comm

lemma nodup_keys_set (h : d.keys.Nodup) : (d.set k v).keys.Nodup := by
  rw [keys_set]
  by_cases hk : k ∈ d.keys
  · rwa [if_pos hk]
  · rw [if_neg hk, List.nodup_append]
    exact ⟨h, List.nodup_singleton k, by rintro a ha b hb rfl; exact hk (List.mem_singleton.mp hb ▸ ha)⟩

/-- The entry of a key, with distinct keys. -/
lemma mem_iff_get (h : d.keys.Nodup) : (k, v) ∈ d ↔ d.get k = some v := by
  induction d with
  | nil => simp
  | cons e d ih =>
    rw [keys, List.map_cons, List.nodup_cons] at h
    rw [get_cons, List.mem_cons, ih h.2]
    by_cases hk : k = e.1
    · rw [if_pos hk, Option.some.injEq]
      constructor
      · rintro (rfl | hget)
        · rfl
        · have hmem : k ∈ keys d := mem_keys_iff.mpr (by rw [hget]; rfl)
          exact absurd (hk ▸ hmem) h.1
      · intro hv
        exact Or.inl (Prod.ext hk hv.symm)
    · rw [if_neg hk]
      apply or_iff_right
      rintro rfl
      exact hk rfl

/-! ## Loops that fill a dictionary -/

/-- One round of a loop that stores under the record's key. -/
def store (key : α → κ) (step : Option ν → α → ν) (d : Dict κ ν) (a : α) : Dict κ ν :=
  d.set (key a) (step (d.get (key a)) a)

/-- The dictionary a loop fills, one record at a time. -/
def collect (key : α → κ) (step : Option ν → α → ν) (l : List α) : Dict κ ν :=
  l.foldl (store key step) []

variable {key : α → κ} {step : Option ν → α → ν}

@[simp] lemma collect_nil : collect key step [] = [] := rfl

lemma collect_concat (l : List α) (a : α) :
    collect key step (l ++ [a]) = store key step (collect key step l) a := by
  rw [collect, List.foldl_append]
  rfl

/-- **What a loop has stored under a key** is what the records of that key alone have stored.

**Proof sketch.** Induction on the list from its end: a record of another key leaves the value alone. -/
theorem get_collect (l : List α) (k : κ) : (collect key step l).get k =
    (l.filter fun a => key a = k).foldl (fun v a => some (step v a)) none := by
  induction l using List.reverseRecOn with
  | nil => rfl
  | append_singleton l a ih =>
    rw [collect_concat, store, get_set, List.filter_append]
    by_cases h : key a = k
    · subst h
      simp [ih]
    · simp [h, Ne.symm h, ih]

/-- A key is stored when a record has it. -/
lemma mem_keys_collect {l : List α} {k : κ} : k ∈ (collect key step l).keys ↔ ∃ a ∈ l, key a = k := by
  induction l using List.reverseRecOn with
  | nil => simp
  | append_singleton l a ih =>
    rw [collect_concat, store, mem_keys_set, ih]
    constructor
    · rintro (rfl | ⟨b, hb, rfl⟩)
      · exact ⟨a, by simp, rfl⟩
      · exact ⟨b, by simp [hb], rfl⟩
    · rintro ⟨b, hb, rfl⟩
      rcases List.mem_append.mp hb with hb | hb
      · exact Or.inr ⟨b, hb, rfl⟩
      · exact Or.inl (by rw [List.mem_singleton.mp hb])

lemma nodup_keys_collect (l : List α) : (collect key step l).keys.Nodup := by
  induction l using List.reverseRecOn with
  | nil => exact List.nodup_nil
  | append_singleton l a ih =>
    rw [collect_concat]
    exact nodup_keys_set ih

/-- **What a loop with a default has stored under a key**: the fold over the records of that key. -/
theorem getD_collect {f : ν → α → ν} {init : ν} (l : List α) (k : κ) :
    ((collect key (fun v a => f (v.getD init) a) l).get k).getD init =
      (l.filter fun a => key a = k).foldl f init := by
  rw [get_collect]
  induction l.filter (fun a => key a = k) using List.reverseRecOn with
  | nil => rfl
  | append_singleton l a ih => simp [ih]

/-- The records a loop has gathered under a key are those of that key. -/
lemma getD_collect_append (l : List α) (k : κ) :
    ((collect key (fun v a => v.getD [] ++ [a]) l).get k).getD [] = l.filter fun a => key a = k := by
  rw [getD_collect (f := fun v a => v ++ [a])]
  induction l.filter (fun a => key a = k) using List.reverseRecOn with
  | nil => rfl
  | append_singleton l a ih => simp [ih]

/-- The records a loop has counted under a key are those of that key. -/
lemma getD_collect_count (l : List α) (k : κ) :
    ((collect key (fun n _ => n.getD 0 + 1) l).get k).getD 0 = l.countP fun a => key a = k := by
  rw [getD_collect (f := fun n _ => n + 1), List.countP_eq_length_filter]
  induction l.filter (fun a => key a = k) using List.reverseRecOn with
  | nil => rfl
  | append_singleton l a ih => simp [ih]

/-- **A loop over the sorted entries is a loop over the sorted keys.** -/
theorem map_sortOn_collect {β κ ν α : Type} [LinearOrder κ] [DecidableEq κ] {key : α → κ}
    {step : Option ν → α → ν} {l : List α} {f : κ × ν → β} {g : κ → β} (h : ∀ e ∈ collect key step l, f e = g e.1) :
    (Sorting.sortOn Prod.fst (collect key step l)).map f = (Sorting.sortedSet (l.map key)).map g := by
  have hkeys : (Sorting.sortOn Prod.fst (collect key step l)).map Prod.fst = Sorting.sortedSet (l.map key) := by
    have hle : ((Sorting.sortOn Prod.fst (collect key step l)).map Prod.fst).Pairwise (· ≤ ·) :=
      List.pairwise_map.mpr (Sorting.pairwise_sortOn Prod.fst _)
    have hnodup : ((Sorting.sortOn Prod.fst (collect key step l)).map Prod.fst).Nodup :=
      ((Sorting.sortOn_perm Prod.fst _).map Prod.fst).nodup_iff.mpr (nodup_keys_collect l)
    apply Sorting.eq_of_ascending ((hle.and hnodup).imp fun h => lt_of_le_of_ne h.1 h.2)
      (Sorting.pairwise_sortedSet _)
    intro k
    rw [((Sorting.sortOn_perm Prod.fst _).map Prod.fst).mem_iff, Sorting.mem_sortedSet]
    change k ∈ keys (collect key step l) ↔ _
    rw [mem_keys_collect, List.mem_map]
  rw [← hkeys, List.map_map]
  apply List.map_congr_left
  intro e he
  exact h e (Sorting.mem_sortOn.mp he)

/-- One of several distinct keys is counted once. -/
lemma sum_map_ite_eq {keys : List κ} (hnodup : keys.Nodup) {k : κ} (hk : k ∈ keys) :
    (keys.map fun k' => if k = k' then 1 else 0).sum = 1 := by
  induction keys with
  | nil => cases hk
  | cons a keys ih =>
    rw [List.nodup_cons] at hnodup
    rw [List.map_cons, List.sum_cons]
    by_cases h : k = a
    · have hzero : (keys.map fun k' => if k = k' then 1 else 0).sum = 0 := by
        apply List.sum_eq_zero
        intro n hn
        obtain ⟨k', hk', rfl⟩ := List.mem_map.mp hn
        rw [if_neg]
        rintro rfl
        exact hnodup.1 (h ▸ hk')
      rw [if_pos h, hzero]
    · rw [if_neg h, zero_add]
      exact ih hnodup.2 ((List.mem_cons.mp hk).resolve_left h)

/-- **The counts of the keys add up to the count of all.** -/
theorem sum_countP {keys : List κ} (hnodup : keys.Nodup) {l : List α} (hl : ∀ a ∈ l, key a ∈ keys)
    (p : α → Bool) :
    (keys.map fun k => (l.filter fun a => key a = k).countP p).sum = l.countP p := by
  induction l with
  | nil => simp
  | cons a l ih =>
    have ih := ih fun b hb => hl b (List.mem_cons_of_mem _ hb)
    have hround : ∀ k, ((a :: l).filter fun b => key b = k).countP p =
        (l.filter fun b => key b = k).countP p + (if p a then if key a = k then 1 else 0 else 0) := by
      intro k
      rw [List.filter_cons]
      by_cases hk : key a = k <;> by_cases hp : p a = true <;> simp [hk, hp]
    simp only [hround]
    rw [List.sum_map_add, ih, List.countP_cons]
    by_cases hp : p a = true
    · simp only [hp, if_true]
      rw [sum_map_ite_eq hnodup (hl a List.mem_cons_self)]
    · simp [hp]

/-- A record is the only one with its key. -/
lemma filter_eq_singleton {l : List α} (h : (l.map key).Nodup) {a : α} (ha : a ∈ l) :
    (l.filter fun b => key b = key a) = [a] := by
  induction l with
  | nil => cases ha
  | cons b l ih =>
    rw [List.map_cons, List.nodup_cons] at h
    have hother : ∀ c ∈ l, key c ≠ key b := by
      intro c hc heq
      exact h.1 (heq ▸ List.mem_map_of_mem hc)
    rcases List.mem_cons.mp ha with rfl | hmem
    · rw [List.filter_cons_of_pos (by simp), List.filter_eq_nil_iff.mpr]
      intro c hc
      simpa using hother c hc
    · rw [List.filter_cons_of_neg (by simpa using (hother a hmem).symm)]
      exact ih h.2 hmem

/-- What is given for one key alone is given once. -/
lemma flatMap_ite_eq {keys : List κ} (hnodup : keys.Nodup) {k : κ} (hk : k ∈ keys) (l : List α) :
    (keys.flatMap fun k' => if k = k' then l else []) = l := by
  induction keys with
  | nil => cases hk
  | cons a keys ih =>
    rw [List.nodup_cons] at hnodup
    rw [List.flatMap_cons]
    by_cases h : k = a
    · have hnone : (keys.flatMap fun k' => if k = k' then l else []) = [] := by
        rw [List.flatMap_eq_nil_iff]
        intro k' hk'
        rw [if_neg]
        rintro rfl
        exact hnodup.1 (h ▸ hk')
      rw [if_pos h, hnone, List.append_nil]
    · rw [if_neg h, List.nil_append]
      exact ih hnodup.2 ((List.mem_cons.mp hk).resolve_left h)

/-- **The groups of the keys make up the list.**

**Proof sketch.** Induction on the list; its first element joins the one group of its key. -/
theorem flatMap_groups_perm {keys : List κ} (hnodup : keys.Nodup) {l : List α} (hl : ∀ a ∈ l, key a ∈ keys) :
    (keys.flatMap fun k => l.filter fun a => key a = k).Perm l := by
  induction l with
  | nil => simp
  | cons a l ih =>
    have ih := ih fun b hb => hl b (List.mem_cons_of_mem _ hb)
    have hround : ∀ k, ((a :: l).filter fun b => key b = k) =
        (if key a = k then [a] else []) ++ l.filter fun b => key b = k := by
      intro k
      by_cases hk : key a = k <;> simp [hk]
    simp only [hround]
    refine (List.flatMap_append_perm keys _ _).symm.trans ?_
    rw [flatMap_ite_eq hnodup (hl a List.mem_cons_self)]
    exact ih.cons a

/-! ## First and last values -/

/-- `d.setdefault(k, v)`: a stored value stays. -/
def setdefault (d : Dict κ ν) (k : κ) (v : ν) : Dict κ ν := d.set k ((d.get k).getD v)

/-- `d.setdefault(k, v)`, over a list of entries. -/
def firsts (l : List (κ × ν)) : Dict κ ν := collect Prod.fst (fun v e => v.getD e.2) l

/-- `d[k] = v`, over a list of entries. -/
def lasts (l : List (κ × ν)) : Dict κ ν := collect Prod.fst (fun _ e => e.2) l

lemma firsts_concat (l : List (κ × ν)) (k : κ) (v : ν) :
    firsts (l ++ [(k, v)]) = (firsts l).setdefault k v :=
  collect_concat l (k, v)

omit [DecidableEq κ] in
lemma foldl_getD (l : List (κ × ν)) (v : ν) :
    l.foldl (fun v e => some (v.getD e.2)) (some v) = some v := by
  induction l with
  | nil => rfl
  | cons e l ih => simpa using ih

lemma get_firsts (l : List (κ × ν)) (k : κ) : (firsts l).get k = (l.find? fun e => e.1 = k).map Prod.snd := by
  rw [firsts, get_collect, ← List.head?_filter]
  cases l.filter fun e => e.1 = k with
  | nil => rfl
  | cons e l => simpa using foldl_getD l e.2

lemma get_lasts (l : List (κ × ν)) (k : κ) :
    (lasts l).get k = (l.filter fun e => e.1 = k).getLast?.map Prod.snd := by
  rw [lasts, get_collect]
  induction l.filter (fun e => e.1 = k) using List.reverseRecOn with
  | nil => rfl
  | append_singleton l e ih => simp

/-- A value stored last is the value of an entry. -/
lemma mem_of_get_lasts {l : List (κ × ν)} (h : (lasts l).get k = some v) : (k, v) ∈ l := by
  rw [get_lasts, Option.map_eq_some_iff] at h
  obtain ⟨e, he, rfl⟩ := h
  have hmem := List.mem_filter.mp (List.mem_of_getLast? he)
  have hk : e.1 = k := by simpa using hmem.2
  rw [← hk]
  exact hmem.1

/-- With distinct keys, the value of a record is stored under its key. -/
lemma get_lasts_map {l : List α} {value : α → ν} (h : (l.map key).Nodup) {a : α} (ha : a ∈ l) :
    (lasts (l.map fun b => (key b, value b))).get (key a) = some (value a) := by
  rw [get_lasts, List.filter_map]
  change (List.map _ (l.filter fun b => key b = key a)).getLast?.map Prod.snd = _
  rw [filter_eq_singleton h ha]
  rfl

/-- `{key(a): a for a in l}.values()`: the last record of each key. -/
def lastsOn (key : α → κ) (l : List α) : List α := (lasts (l.map fun a => (key a, a))).map Prod.snd

/-- The last records are stored under their own keys. -/
lemma map_lastsOn (l : List α) : (lastsOn key l).map key = (lasts (l.map fun a => (key a, a))).keys := by
  have hnodup : (lasts (l.map fun a => (key a, a))).keys.Nodup := nodup_keys_collect _
  rw [lastsOn, List.map_map]
  apply List.map_congr_left
  rintro ⟨k, a⟩ he
  have hmem := mem_of_get_lasts ((mem_iff_get hnodup).mp he)
  obtain ⟨b, -, hb⟩ := List.mem_map.mp hmem
  obtain ⟨rfl, rfl⟩ := Prod.mk.inj hb
  rfl

lemma nodup_map_lastsOn (l : List α) : ((lastsOn key l).map key).Nodup := by
  rw [map_lastsOn]
  exact nodup_keys_collect _

/-- **The last records of their keys.** -/
lemma mem_lastsOn {l : List α} {a : α} :
    a ∈ lastsOn key l ↔ (l.filter fun b => key b = key a).getLast? = some a := by
  have hnodup : (lasts (l.map fun a => (key a, a))).keys.Nodup := nodup_keys_collect _
  have hget : ∀ k, (lasts (l.map fun a => (key a, a))).get k = (l.filter fun b => key b = k).getLast? := by
    intro k
    rw [get_lasts, List.filter_map, List.getLast?_map, Option.map_map]
    exact congrFun Option.map_id _
  rw [← hget, ← mem_iff_get hnodup]
  constructor
  · intro h
    obtain ⟨⟨k, b⟩, he, rfl⟩ := List.mem_map.mp h
    have hb := mem_of_get_lasts ((mem_iff_get hnodup).mp he)
    obtain ⟨c, -, hc⟩ := List.mem_map.mp hb
    obtain ⟨rfl, rfl⟩ := Prod.mk.inj hc
    exact he
  · intro h
    exact List.mem_map_of_mem h

lemma mem_of_mem_lastsOn {l : List α} {a : α} (h : a ∈ lastsOn key l) : a ∈ l :=
  (List.mem_filter.mp (List.mem_of_getLast? (mem_lastsOn.mp h))).1

/-- Where records of one key are equal, all of them are last. -/
lemma mem_lastsOn_of_coherent {l : List α} (hl : ∀ a ∈ l, ∀ b ∈ l, key a = key b → a = b) {a : α} :
    a ∈ lastsOn key l ↔ a ∈ l := by
  constructor
  · exact mem_of_mem_lastsOn
  · intro ha
    rw [mem_lastsOn]
    cases hlast : (l.filter fun b => key b = key a).getLast? with
    | none =>
      have hnil := List.getLast?_eq_none_iff.mp hlast
      rw [List.filter_eq_nil_iff] at hnil
      exact absurd (decide_eq_true rfl) (hnil a ha)
    | some b =>
      have hmem := List.mem_filter.mp (List.mem_of_getLast? hlast)
      have hkey : key b = key a := by simpa using hmem.2
      rw [hl b hmem.1 a ha hkey]

/-- The record that comes last is last of its key. -/
lemma mem_lastsOn_concat (l : List α) (a : α) : a ∈ lastsOn key (l ++ [a]) := by
  rw [mem_lastsOn, List.filter_append]
  simp

/-! ## One to one -/

section OneToOne

variable [DecidableEq ν]

/-- A list of entries pairs keys and values one to one. -/
def OneToOne (l : List (κ × ν)) : Prop := ∀ p ∈ l, ∀ q ∈ l, p.1 = q.1 ↔ p.2 = q.2

instance (l : List (κ × ν)) : Decidable (OneToOne l) := by
  unfold OneToOne
  infer_instance

omit [DecidableEq κ] [DecidableEq ν] in
lemma oneToOne_nil : OneToOne ([] : List (κ × ν)) := by
  intro p hp
  cases hp

omit [DecidableEq κ] [DecidableEq ν] in
lemma OneToOne.mono {l l' : List (κ × ν)} (h : OneToOne l) (hsub : ∀ p ∈ l', p ∈ l) : OneToOne l' :=
  fun p hp q hq => h p (hsub p hp) q (hsub q hq)

omit [DecidableEq κ] [DecidableEq ν] in
lemma oneToOne_concat {l : List (κ × ν)} {p : κ × ν} :
    OneToOne (l ++ [p]) ↔ OneToOne l ∧ ∀ q ∈ l, q.1 = p.1 ↔ q.2 = p.2 := by
  constructor
  · intro h
    refine ⟨h.mono fun q hq => List.mem_append_left _ hq, fun q hq => ?_⟩
    exact h q (List.mem_append_left _ hq) p (by simp)
  · rintro ⟨hl, hp⟩ q hq r hr
    rcases List.mem_append.mp hq with hq | hq <;> rcases List.mem_append.mp hr with hr | hr
    · exact hl q hq r hr
    · rw [List.mem_singleton.mp hr]
      exact hp q hq
    · rw [List.mem_singleton.mp hq, eq_comm, hp r hr, eq_comm]
    · rw [List.mem_singleton.mp hq, List.mem_singleton.mp hr]
      exact iff_of_true rfl rfl

omit [DecidableEq ν] in
/-- The first value of a key agrees with `v` exactly when every value of the key does. -/
lemma getD_firsts_eq {l : List (κ × ν)} (hl : ∀ p ∈ l, ∀ q ∈ l, p.1 = q.1 → p.2 = q.2) {k : κ} {v : ν} :
    ((firsts l).get k).getD v = v ↔ ∀ p ∈ l, p.1 = k → p.2 = v := by
  rw [get_firsts]
  cases hfind : l.find? fun e => e.1 = k with
  | none =>
    have hnone : ∀ p ∈ l, p.1 ≠ k := by simpa using hfind
    exact iff_of_true rfl fun p hp hk => absurd hk (hnone p hp)
  | some e =>
    have hmem := List.mem_of_find?_eq_some hfind
    have hkey : e.1 = k := by simpa using List.find?_some hfind
    constructor
    · intro hv p hp hk
      exact (hl p hp e hmem (hk.trans hkey.symm)).trans hv
    · intro h
      exact h e hmem hkey

/-- **Two `setdefault` checks keep the entries one to one.** -/
theorem agrees_iff {l : List (κ × ν)} (hl : OneToOne l) (p : κ × ν) :
    ((firsts l).get p.1).getD p.2 = p.2 ∧ ((firsts (l.map Prod.swap)).get p.2).getD p.1 = p.1 ↔
      OneToOne (l ++ [p]) := by
  have hswap : ∀ q ∈ l.map Prod.swap, ∀ r ∈ l.map Prod.swap, q.1 = r.1 → q.2 = r.2 := by
    intro q hq r hr
    obtain ⟨q, hq', rfl⟩ := List.mem_map.mp hq
    obtain ⟨r, hr', rfl⟩ := List.mem_map.mp hr
    exact (hl q hq' r hr').mpr
  rw [getD_firsts_eq fun q hq r hr => (hl q hq r hr).mp, getD_firsts_eq hswap, oneToOne_concat]
  constructor
  · rintro ⟨hkey, hvalue⟩
    exact ⟨hl, fun q hq => ⟨hkey q hq, hvalue q.swap (List.mem_map_of_mem hq)⟩⟩
  · rintro ⟨-, h⟩
    refine ⟨fun q hq => (h q hq).mp, fun q hq => ?_⟩
    obtain ⟨q, hq', rfl⟩ := List.mem_map.mp hq
    exact (h q hq').mpr

end OneToOne

end Dict
