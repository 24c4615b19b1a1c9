import Mathlib.Algebra.BigOperators.Group.Finset.Basic
import Mathlib.Algebra.Order.BigOperators.Group.Finset
import Mathlib.Algebra.Order.Ring.Int
import Mathlib.Data.List.Nodup
import Mathlib.Logic.Function.Basic
import Mathlib.Tactic.Lemma

set_option relaxedAutoImplicit false
set_option autoImplicit false

/-!
# Reference counts with sizes

Each of several holders holds some keys, each key with its size, on which all its holders agree. A book counts
the holders of every key, keeps the size of every key that is held, and the total of these sizes. The two
operations let one more holder in and let one go.

## Main definitions

* `RefCount.Book` — counts, sizes and their total.
* `RefCount.Book.reserve`, `RefCount.Book.release` — one holder comes or goes.
* `RefCount.Accounts` — a book is that of given holders.

## Main results

* `RefCount.Accounts.reserve`, `RefCount.Accounts.release` — the operations account for one holder more, or less.
* `RefCount.Accounts.unique` — the holders determine the book.
* `RefCount.Accounts.total_le_of_release` — the total never grows when a holder goes.
-/

namespace RefCount

variable {κ : Type} [DecidableEq κ]

/-- What one holder holds: keys with their sizes. -/
abbrev Entries (κ : Type) : Type := List (κ × ℤ)

/-- The keys of a holder. -/
def keys (entries : Entries κ) : List κ := entries.map Prod.fst

/-- How many hold each key, the size of each key that is held, and the total of these sizes. -/
structure Book (κ : Type) where
  refs : κ → ℤ
  sizes : κ → ℤ
  total : ℤ

namespace Book

/-- The book of no holders. -/
def empty : Book κ where
  refs := fun _ => 0
  sizes := fun _ => 0
  total := 0

/-- What the keys that nobody holds yet add to the total. -/
def added (b : Book κ) (entries : Entries κ) : ℤ :=
  ((entries.filter fun e => b.refs e.1 = 0).map Prod.snd).sum

/-- One key gets one more holder; its size is noted with the first. -/
def hold (b : Book κ) (e : κ × ℤ) : Book κ where
  refs := Function.update b.refs e.1 (b.refs e.1 + 1)
  sizes := if b.refs e.1 + 1 = 1 then Function.update b.sizes e.1 e.2 else b.sizes
  total := b.total

/-- A holder comes. -/
def reserve (b : Book κ) (entries : Entries κ) : Book κ :=
  { entries.foldl hold b with total := b.total + b.added entries }

/-- One key loses a holder; with the last its size is forgotten. -/
def drop (b : Book κ) (k : κ) : Book κ :=
  if b.refs k - 1 ≤ 0 then
    { refs := Function.update b.refs k 0
      sizes := Function.update b.sizes k 0
      total := b.total - b.sizes k }
  else { b with refs := Function.update b.refs k (b.refs k - 1) }

/-- A holder goes. -/
def release (b : Book κ) (entries : Entries κ) : Book κ := (keys entries).foldl drop b

/-- The keys that lose their last holder when a holder goes. -/
def dropped (b : Book κ) (entries : Entries κ) : List κ := (keys entries).filter fun k => b.refs k - 1 ≤ 0

end Book

/-! ## The operations, key by key -/

omit [DecidableEq κ] in
@[simp] lemma keys_nil : keys ([] : Entries κ) = [] := rfl

omit [DecidableEq κ] in
@[simp] lemma keys_cons (e : κ × ℤ) (entries : Entries κ) : keys (e :: entries) = e.1 :: keys entries := rfl

omit [DecidableEq κ] in
lemma mem_keys {entries : Entries κ} {k : κ} : k ∈ keys entries ↔ ∃ e ∈ entries, e.1 = k := List.mem_map

section Operations

variable {b : Book κ} {entries : Entries κ} {k : κ}

lemma refs_foldl_hold (hnodup : (keys entries).Nodup) :
    (entries.foldl Book.hold b).refs k = b.refs k + if k ∈ keys entries then 1 else 0 := by
  induction entries generalizing b with
  | nil => simp
  | cons e entries ih =>
    rw [keys_cons, List.nodup_cons] at hnodup
    obtain ⟨hnot, hrest⟩ := hnodup
    rw [List.foldl_cons, ih hrest, keys_cons]
    by_cases hk : k = e.1
    · subst hk
      rw [if_neg hnot, if_pos List.mem_cons_self]
      simp [Book.hold]
    · simp [Book.hold, hk]

lemma sizes_foldl_hold_of_notMem (hk : k ∉ keys entries) : (entries.foldl Book.hold b).sizes k = b.sizes k := by
  induction entries generalizing b with
  | nil => rfl
  | cons e entries ih =>
    rw [keys_cons, List.mem_cons, not_or] at hk
    rw [List.foldl_cons, ih hk.2, Book.hold]
    dsimp only
    split
    · rw [Function.update_of_ne hk.1]
    · rfl

/-- The size of a key is the one that is noted, as soon as it is held. -/
lemma sizes_foldl_hold_of_mem (hnodup : (keys entries).Nodup) {e : κ × ℤ} (he : e ∈ entries)
    (hagree : b.refs e.1 ≠ 0 → b.sizes e.1 = e.2) : (entries.foldl Book.hold b).sizes e.1 = e.2 := by
  induction entries generalizing b with
  | nil => exact absurd he List.not_mem_nil
  | cons first entries ih =>
    rw [keys_cons, List.nodup_cons] at hnodup
    obtain ⟨hnot, hrest⟩ := hnodup
    rw [List.foldl_cons]
    rcases List.mem_cons.mp he with rfl | he
    · rw [sizes_foldl_hold_of_notMem hnot, Book.hold]
      dsimp only
      by_cases hzero : b.refs e.1 = 0
      · rw [if_pos (by omega), Function.update_self]
      · rw [if_neg (by omega)]
        exact hagree hzero
    · have hne : e.1 ≠ first.1 := fun heq => hnot (heq ▸ mem_keys.mpr ⟨e, he, rfl⟩)
      apply ih hrest he
      intro hrefs
      simp only [Book.hold, Function.update_of_ne hne] at hrefs
      simp only [Book.hold]
      split
      · rw [Function.update_of_ne hne]
        exact hagree hrefs
      · exact hagree hrefs

lemma total_foldl_hold : (entries.foldl Book.hold b).total = b.total := by
  induction entries generalizing b with
  | nil => rfl
  | cons e entries ih =>
    rw [List.foldl_cons, ih]
    rfl

variable {ks : List κ}

lemma drop_of_ne {k' : κ} (h : k ≠ k') :
    (b.drop k').refs k = b.refs k ∧ (b.drop k').sizes k = b.sizes k := by
  unfold Book.drop
  split
  · exact ⟨Function.update_of_ne h _ _, Function.update_of_ne h _ _⟩
  · exact ⟨Function.update_of_ne h _ _, rfl⟩

lemma foldl_drop_of_notMem (hk : k ∉ ks) :
    (ks.foldl Book.drop b).refs k = b.refs k ∧ (ks.foldl Book.drop b).sizes k = b.sizes k := by
  induction ks generalizing b with
  | nil => exact ⟨rfl, rfl⟩
  | cons k' ks ih =>
    rw [List.mem_cons, not_or] at hk
    obtain ⟨hrefs, hsizes⟩ := ih (b := b.drop k') hk.2
    obtain ⟨hrefs', hsizes'⟩ := drop_of_ne (b := b) hk.1
    exact ⟨hrefs.trans hrefs', hsizes.trans hsizes'⟩

lemma foldl_drop_of_mem (hnodup : ks.Nodup) (hk : k ∈ ks) :
    (ks.foldl Book.drop b).refs k = (if b.refs k - 1 ≤ 0 then 0 else b.refs k - 1) ∧
      (ks.foldl Book.drop b).sizes k = if b.refs k - 1 ≤ 0 then 0 else b.sizes k := by
  induction ks generalizing b with
  | nil => exact absurd hk List.not_mem_nil
  | cons k' ks ih =>
    obtain ⟨hnot, hrest⟩ := List.nodup_cons.mp hnodup
    rw [List.foldl_cons]
    rcases List.mem_cons.mp hk with rfl | hk
    · obtain ⟨hrefs, hsizes⟩ := foldl_drop_of_notMem (b := b.drop k) hnot
      rw [hrefs, hsizes, Book.drop]
      split <;> simp
    · have hne : k ≠ k' := fun heq => hnot (heq ▸ hk)
      obtain ⟨hrefs, hsizes⟩ := drop_of_ne (b := b) hne
      rw [← hrefs, ← hsizes]
      exact ih hrest hk

lemma total_foldl_drop (hnodup : ks.Nodup) : (ks.foldl Book.drop b).total =
    b.total - ((ks.filter fun k => b.refs k - 1 ≤ 0).map b.sizes).sum := by
  induction ks generalizing b with
  | nil => simp
  | cons k ks ih =>
    obtain ⟨hnot, hrest⟩ := List.nodup_cons.mp hnodup
    have hsame : ∀ k' ∈ ks, (b.drop k).refs k' = b.refs k' ∧ (b.drop k).sizes k' = b.sizes k' :=
      fun k' hk' => drop_of_ne fun heq => hnot (heq ▸ hk')
    have hfilter : (ks.filter fun k' => (b.drop k).refs k' - 1 ≤ 0) = ks.filter fun k' => b.refs k' - 1 ≤ 0 :=
      List.filter_congr fun k' hk' => by rw [(hsame k' hk').1]
    have hmap : ((ks.filter fun k' => b.refs k' - 1 ≤ 0).map (b.drop k).sizes) =
        (ks.filter fun k' => b.refs k' - 1 ≤ 0).map b.sizes :=
      List.map_congr_left fun k' hk' => (hsame k' (List.mem_of_mem_filter hk')).2
    rw [List.foldl_cons, ih hrest, hfilter, hmap]
    by_cases hlast : b.refs k - 1 ≤ 0
    · rw [List.filter_cons_of_pos (by simpa using hlast), List.map_cons, List.sum_cons, Book.drop, if_pos hlast]
      dsimp only
      omega
    · rw [List.filter_cons_of_neg (by simpa using hlast), Book.drop, if_neg hlast]

end Operations

/-! ## Books that account for their holders -/

/-- The keys that are held. -/
def held (live : List (Entries κ)) : Finset κ := (live.flatMap keys).toFinset

lemma mem_held {live : List (Entries κ)} {k : κ} : k ∈ held live ↔ ∃ r ∈ live, k ∈ keys r := by
  simp [held]

/-- **The book is that of the holders**: it counts them, it has the sizes they agree on and no others, and its
total is that of all keys that are held. -/
structure Accounts (b : Book κ) (live : List (Entries κ)) : Prop where
  nodup : ∀ r ∈ live, (keys r).Nodup
  refs : ∀ k, b.refs k = (live.countP fun r => k ∈ keys r : ℕ)
  sizes : ∀ r ∈ live, ∀ e ∈ r, b.sizes e.1 = e.2
  unheld : ∀ k, b.refs k = 0 → b.sizes k = 0
  total : b.total = ∑ k ∈ held live, b.sizes k

lemma accounts_empty : Accounts (Book.empty : Book κ) [] where
  nodup := by simp
  refs := fun _ => rfl
  sizes := by simp
  unheld := fun _ _ => rfl
  total := rfl

section Accounts

variable {b b' : Book κ} {live pre post : List (Entries κ)} {r : Entries κ} {k : κ}

/-- A key has a holder exactly when it is held. -/
lemma Accounts.refs_pos_iff (h : Accounts b live) : 0 < b.refs k ↔ ∃ r ∈ live, k ∈ keys r := by
  rw [h.refs, Int.natCast_pos, List.countP_pos_iff]
  simp

lemma Accounts.refs_nonneg (h : Accounts b live) : 0 ≤ b.refs k := by
  rw [h.refs]
  exact Int.natCast_nonneg _

/-- The holders determine the book. -/
theorem Accounts.unique (h : Accounts b live) (h' : Accounts b' live) : b = b' := by
  have hrefs : b.refs = b'.refs := by
    funext k
    rw [h.refs, h'.refs]
  have hsizes : b.sizes = b'.sizes := by
    funext k
    by_cases hk : 0 < b.refs k
    · obtain ⟨r, hr, hmem⟩ := h.refs_pos_iff.mp hk
      obtain ⟨e, he, rfl⟩ := mem_keys.mp hmem
      rw [h.sizes r hr e he, h'.sizes r hr e he]
    · have hzero : b.refs k = 0 := le_antisymm (not_lt.mp hk) h.refs_nonneg
      rw [h.unheld k hzero, h'.unheld k (hrefs ▸ hzero)]
  cases b
  cases b'
  obtain rfl : _ = _ := hrefs
  obtain rfl : _ = _ := hsizes
  congr 1
  exact h.total.trans h'.total.symm

/-- Only the holders matter, not their order. -/
lemma Accounts.perm (h : Accounts b live) {live' : List (Entries κ)} (hperm : live.Perm live') :
    Accounts b live' where
  nodup := fun r hr => h.nodup r (hperm.mem_iff.mpr hr)
  refs := fun k => by rw [h.refs, hperm.countP_eq]
  sizes := fun r hr => h.sizes r (hperm.mem_iff.mpr hr)
  unheld := h.unheld
  total := by
    rw [h.total]
    congr 1
    ext k
    simp only [mem_held, hperm.mem_iff]

/-- A key of a holder that comes has the size the holder names. -/
lemma sizes_reserve (hnodup : (keys r).Nodup) (hagree : ∀ e ∈ r, b.refs e.1 ≠ 0 → b.sizes e.1 = e.2)
    {e : κ × ℤ} (he : e ∈ r) : (b.reserve r).sizes e.1 = e.2 :=
  sizes_foldl_hold_of_mem hnodup he (hagree e he)

/-- The keys that are held keep their sizes when a holder comes. -/
lemma sizes_reserve_of_held (hnodup : (keys r).Nodup)
    (hagree : ∀ e ∈ r, b.refs e.1 ≠ 0 → b.sizes e.1 = e.2) (hk : 0 < b.refs k) :
    (b.reserve r).sizes k = b.sizes k := by
  by_cases hmem : k ∈ keys r
  · obtain ⟨e, he, rfl⟩ := mem_keys.mp hmem
    rw [sizes_reserve hnodup hagree he, hagree e he hk.ne']
  · exact sizes_foldl_hold_of_notMem hmem

/-- What a holder adds to the total is the sizes of the keys that only it holds. -/
lemma added_eq (hnodup : (keys r).Nodup) (hagree : ∀ e ∈ r, b.refs e.1 ≠ 0 → b.sizes e.1 = e.2) :
    b.added r = ∑ k ∈ ((keys r).filter fun k => b.refs k = 0).toFinset, (b.reserve r).sizes k := by
  rw [List.sum_toFinset _ (hnodup.filter _), keys, List.filter_map, List.map_map, Book.added]
  congr 1
  refine List.map_congr_left fun e he => ?_
  exact (sizes_reserve hnodup hagree (List.mem_of_mem_filter he)).symm

/-- **A holder comes.** -/
theorem Accounts.reserve (h : Accounts b live) (hnodup : (keys r).Nodup)
    (hagree : ∀ e ∈ r, b.refs e.1 ≠ 0 → b.sizes e.1 = e.2) : Accounts (b.reserve r) (r :: live) where
  nodup := by
    rw [List.forall_mem_cons]
    exact ⟨hnodup, h.nodup⟩
  refs := fun k => by
    change (r.foldl Book.hold b).refs k = _
    rw [refs_foldl_hold hnodup, h.refs, List.countP_cons]
    by_cases hk : k ∈ keys r <;> simp [hk]
  sizes := by
    rw [List.forall_mem_cons]
    refine ⟨fun e he => sizes_reserve hnodup hagree he, fun r' hr' e he => ?_⟩
    rw [sizes_reserve_of_held hnodup hagree (h.refs_pos_iff.mpr ⟨r', hr', mem_keys.mpr ⟨e, he, rfl⟩⟩)]
    exact h.sizes r' hr' e he
  unheld := fun k hk => by
    change (r.foldl Book.hold b).refs k = 0 at hk
    rw [refs_foldl_hold hnodup] at hk
    have hnonneg := h.refs_nonneg (k := k)
    by_cases hmem : k ∈ keys r
    · rw [if_pos hmem] at hk
      omega
    · rw [if_neg hmem, add_zero] at hk
      exact (sizes_foldl_hold_of_notMem hmem).trans (h.unheld k hk)
  total := by
    have hunion : held (r :: live) = held live ∪ ((keys r).filter fun k => b.refs k = 0).toFinset := by
      ext k
      have hpos := h.refs_pos_iff (k := k)
      have hnonneg := h.refs_nonneg (k := k)
      rw [Finset.mem_union, mem_held, mem_held, List.mem_toFinset, List.mem_filter, decide_eq_true_eq,
        List.exists_mem_cons_iff, ← hpos]
      constructor
      · rintro (hk | hk)
        · by_cases hzero : b.refs k = 0
          · exact Or.inr ⟨hk, hzero⟩
          · exact Or.inl (by omega)
        · exact Or.inl hk
      · rintro (hk | ⟨hk, -⟩)
        · exact Or.inr hk
        · exact Or.inl hk
    have hdisjoint : Disjoint (held live) ((keys r).filter fun k => b.refs k = 0).toFinset := by
      rw [Finset.disjoint_left]
      intro k hk hfresh
      have hpos := h.refs_pos_iff.mpr (mem_held.mp hk)
      rw [List.mem_toFinset, List.mem_filter, decide_eq_true_eq] at hfresh
      omega
    have hkept : ∑ k ∈ held live, (b.reserve r).sizes k = ∑ k ∈ held live, b.sizes k :=
      Finset.sum_congr rfl fun k hk =>
        sizes_reserve_of_held hnodup hagree (h.refs_pos_iff.mpr (mem_held.mp hk))
    rw [hunion, Finset.sum_union hdisjoint, hkept, ← added_eq hnodup hagree, ← h.total]
    rfl

/-- The last holder of a key is the one that goes. -/
lemma Accounts.dropped_iff (h : Accounts b (r :: live)) (hk : k ∈ keys r) :
    b.refs k - 1 ≤ 0 ↔ ∀ r' ∈ live, k ∉ keys r' := by
  have hcount := h.refs k
  rw [List.countP_cons, if_pos (by simpa using hk)] at hcount
  have hzero : live.countP (fun r' => k ∈ keys r') = 0 ↔ ∀ r' ∈ live, k ∉ keys r' := by
    rw [List.countP_eq_zero]
    simp
  rw [← hzero]
  omega

/-- **A holder goes.** -/
theorem Accounts.release (h : Accounts b (r :: live)) : Accounts (b.release r) live := by
  have hnodup := h.nodup r List.mem_cons_self
  -- A key that another holder has keeps its size and loses one holder at most.
  have hkept : ∀ r' ∈ live, ∀ k ∈ keys r', (b.release r).sizes k = b.sizes k := by
    intro r' hr' k hk
    by_cases hmem : k ∈ keys r
    · have hlast : ¬ b.refs k - 1 ≤ 0 := fun hle => (h.dropped_iff hmem).mp hle r' hr' hk
      rw [Book.release, (foldl_drop_of_mem hnodup hmem).2, if_neg hlast]
    · exact (foldl_drop_of_notMem hmem).2
  have hrefs : ∀ k, (b.release r).refs k = (live.countP fun r' => k ∈ keys r' : ℕ) := by
    intro k
    have hcount := h.refs k
    rw [List.countP_cons] at hcount
    by_cases hmem : k ∈ keys r
    · rw [if_pos (by simpa using hmem)] at hcount
      rw [Book.release, (foldl_drop_of_mem hnodup hmem).1]
      split <;> omega
    · rw [if_neg (by simpa using hmem)] at hcount
      rw [Book.release, (foldl_drop_of_notMem hmem).1]
      omega
  refine ⟨fun r' hr' => h.nodup r' (List.mem_cons_of_mem _ hr'), hrefs, ?_, ?_, ?_⟩
  · intro r' hr' e he
    rw [hkept r' hr' e.1 (mem_keys.mpr ⟨e, he, rfl⟩)]
    exact h.sizes r' (List.mem_cons_of_mem _ hr') e he
  · intro k hk
    by_cases hmem : k ∈ keys r
    · have hdrop : b.refs k - 1 ≤ 0 := by
        by_contra hlast
        rw [Book.release, (foldl_drop_of_mem hnodup hmem).1, if_neg hlast] at hk
        omega
      rw [Book.release, (foldl_drop_of_mem hnodup hmem).2, if_pos hdrop]
    · rw [Book.release, (foldl_drop_of_notMem hmem).1] at hk
      rw [Book.release, (foldl_drop_of_notMem hmem).2, h.unheld k hk]
  · have hunion : held (r :: live) = held live ∪ (b.dropped r).toFinset := by
      ext k
      rw [Finset.mem_union, mem_held, mem_held, List.mem_toFinset, Book.dropped, List.mem_filter,
        decide_eq_true_eq, List.exists_mem_cons_iff]
      constructor
      · rintro (hk | hk)
        · by_cases hother : ∃ r' ∈ live, k ∈ keys r'
          · exact Or.inl hother
          · refine Or.inr ⟨hk, (h.dropped_iff hk).mpr fun r' hr' hk' => hother ⟨r', hr', hk'⟩⟩
        · exact Or.inl hk
      · rintro (hk | ⟨hk, -⟩)
        · exact Or.inr hk
        · exact Or.inl hk
    have hdisjoint : Disjoint (held live) (b.dropped r).toFinset := by
      rw [Finset.disjoint_left]
      intro k hk hdropped
      obtain ⟨r', hr', hk'⟩ := mem_held.mp hk
      rw [List.mem_toFinset, Book.dropped, List.mem_filter, decide_eq_true_eq] at hdropped
      exact (h.dropped_iff hdropped.1).mp hdropped.2 r' hr' hk'
    have hsum : ∑ k ∈ held live, (b.release r).sizes k = ∑ k ∈ held live, b.sizes k := by
      refine Finset.sum_congr rfl fun k hk => ?_
      obtain ⟨r', hr', hk'⟩ := mem_held.mp hk
      exact hkept r' hr' k hk'
    have htotal := h.total
    have hdropped : (b.dropped r).Nodup := hnodup.filter _
    rw [hunion, Finset.sum_union hdisjoint, List.sum_toFinset _ hdropped] at htotal
    rw [hsum, Book.release, total_foldl_drop hnodup, htotal]
    exact add_sub_cancel_right _ _

/-- The total never grows when a holder goes. -/
theorem Accounts.total_le_of_release (h : Accounts b (r :: live)) (hnonneg : ∀ e ∈ r, 0 ≤ e.2) :
    (b.release r).total ≤ b.total := by
  have hsum : 0 ≤ (((keys r).filter fun k => b.refs k - 1 ≤ 0).map b.sizes).sum := by
    apply List.sum_nonneg
    intro n hn
    obtain ⟨k, hk, rfl⟩ := List.mem_map.mp hn
    obtain ⟨e, he, rfl⟩ := mem_keys.mp (List.mem_of_mem_filter hk)
    rw [h.sizes r List.mem_cons_self e he]
    exact hnonneg e he
  rw [Book.release, total_foldl_drop (h.nodup r List.mem_cons_self)]
  omega

end Accounts

end RefCount
