import Misscomputer.Static.Cache

set_option relaxedAutoImplicit false
set_option autoImplicit false

/-!
# No pinned blob is lost

In every interleaving of pins and releases the cache keeps exactly the references of the sites that are pinned
or being pinned, and the files of the pinned sites stay as they were verified.

## Main definitions

* `StaticCache.Pin.Relies` — the pin needs the file of a digest from now on.
* `StaticCache.Sound` — the invariant of the cache and its pins.

## Main results

* `StaticCache.Sound.update` — what a move of one pin has to keep.
* `StaticCache.Sound.step` — every event keeps the invariant.
* `StaticCache.pinned_blobs_present` — the safety of the cache.

## References

* `pkg/static/cache.go`
-/

namespace Misscomputer

namespace StaticCache

open RefCount (Accounts Book Entries keys mem_keys)

/-! ## Sites -/

lemma Site.nodup (site : Site) : (keys site.unique).Nodup := Dict.nodup_keys_collect _

/-- Every entry of a site is the digest of one of its files, with its length. -/
lemma Site.exists_file (site : Site) {e : Sha × ℤ} (he : e ∈ site.unique) :
    ∃ file ∈ site.manifest.files, e = (file.bodySha256, file.contentLength) := by
  have hget := (Dict.mem_iff_get site.nodup).mp he
  obtain ⟨file, hfile, heq⟩ := List.mem_map.mp (Dict.mem_of_get_lasts hget)
  exact ⟨file, hfile, heq.symm⟩

/-- Every file of a site is listed with its size. -/
lemma Site.mem_unique (site : Site) {file : Static.File} (hfile : file ∈ site.manifest.files) :
    (file.bodySha256, file.contentLength) ∈ site.unique := by
  have hkey : file.bodySha256 ∈ keys site.unique :=
    Dict.mem_keys_collect.mpr ⟨_, List.mem_map.mpr ⟨file, hfile, rfl⟩, rfl⟩
  obtain ⟨e, he, heq⟩ := mem_keys.mp hkey
  obtain ⟨other, hother, rfl⟩ := site.exists_file he
  have hlength := ((Static.validate_ok _).mp site.valid).2.2.2 other hother file hfile heq
  rw [← hlength, ← heq]
  exact he

lemma Site.nonneg (site : Site) {e : Sha × ℤ} (he : e ∈ site.unique) : 0 ≤ e.2 := by
  obtain ⟨file, hfile, rfl⟩ := site.exists_file he
  exact (((Static.validate_ok _).mp site.valid).1.file file hfile).nonneg

lemma Site.size_of_mem (site : Site) {e : Sha × ℤ} (he : e ∈ site.unique) : site.size e.1 = e.2 := by
  rw [Site.size, (Dict.mem_iff_get site.nodup).mp he, Option.getD_some]

/-- Of a digest, a site lists one size. -/
lemma Site.mem_of_mem_keys (site : Site) {sha : Sha} (h : sha ∈ keys site.unique) :
    (sha, site.size sha) ∈ site.unique := by
  obtain ⟨e, he, rfl⟩ := mem_keys.mp h
  rw [site.size_of_mem he]
  exact he

/-! ## What a pin has and needs -/

/-- The pin has its references. -/
def Pin.live (p : Pin) : Bool :=
  match p.phase with
  | .fetching _ _ _ | .returned | .releasing => true
  | .reserving _ | .removing _ _ | .ended => false

/-- The references of the pins. -/
def live (pins : List Pin) : List (Entries Sha) := (pins.filter Pin.live).map fun p => p.site.unique

/-- A digest is yet to be made present, or is being made so. -/
def Pending (todo : List Sha) (workers : List Worker) (sha : Sha) : Prop :=
  sha ∈ todo ∨ ∃ worker ∈ workers, worker.sha? = some sha

/-- The digests that a fetching pin deals with. -/
def Pin.Touches (p : Pin) (sha : Sha) : Prop :=
  match p.phase with
  | .fetching todo workers _ => Pending todo workers sha
  | _ => False

/-- The locks of a pin. -/
def Pin.Holds (p : Pin) (a : Option ℕ) (sha : Sha) : Prop :=
  match p.phase with
  | .fetching _ workers _ => ∃ w worker, a = some w ∧ workers[w]? = some worker ∧ worker.locked? = some sha
  | .removing _ (.checking sha') | .removing _ (.removing sha') | .removing _ (.unlocking sha') =>
    a = none ∧ sha = sha'
  | _ => False

/-- **The pin relies on the file of a digest**: its site is with the caller, or will be unless it fails later, or
a worker has just verified the file. -/
def Pin.Relies (p : Pin) (sha : Sha) : Prop :=
  match p.phase with
  | .returned => True
  | .fetching todo workers failed =>
    (failed = false ∧ p.cancelled = false ∧ ¬ Pending todo workers sha) ∨ Worker.leaving sha true ∈ workers
  | _ => False

/-- The release of the pin found the digest unreferenced, and removes its file next. -/
def Pin.Removes (p : Pin) (sha : Sha) : Prop := ∃ remaining, p.phase = .removing remaining (.removing sha)

/-- The files that the release of the pin has not dealt with. -/
def Pin.remaining (p : Pin) : List Sha :=
  match p.phase with
  | .removing remaining _ => remaining
  | _ => []

/-- The file of a digest is there, as it was verified. -/
def Good (c : Cache) (sha : Sha) (size : ℤ) : Prop := ∃ body, c.blobs sha = some body ∧ verifies sha size body

/-- **The invariant.** -/
structure Sound (s : Config) : Prop where
  accounts : Accounts s.cache.book (live s.pins)
  bound : s.cache.book.total ≤ s.cache.maxBytes
  touched : ∀ (i : ℕ) (p : Pin), s.pins[i]? = some p → ∀ sha, p.Touches sha → sha ∈ keys p.site.unique
  held : ∀ (i : ℕ) (p : Pin), s.pins[i]? = some p → ∀ a sha, p.Holds a sha → s.cache.locks sha = some (i, a)
  good : ∀ (i : ℕ) (p : Pin), s.pins[i]? = some p → ∀ e ∈ p.site.unique, p.Relies e.1 → Good s.cache e.1 e.2
  vacant : ∀ (i : ℕ) (p : Pin) (sha : Sha), s.pins[i]? = some p → p.Removes sha →
    ∀ (j : ℕ) (q : Pin), s.pins[j]? = some q → sha ∈ keys q.site.unique → ¬ q.Relies sha
  left : ∀ sha, s.cache.blobs sha ≠ none → 0 < s.cache.book.refs sha ∨
    ∃ (i : ℕ) (p : Pin), s.pins[i]? = some p ∧ sha ∈ p.remaining

/-- A pin that relies on a file has its references. -/
lemma Pin.Relies.live {p : Pin} {sha : Sha} (h : p.Relies sha) : p.live = true := by
  unfold Pin.Relies at h
  unfold Pin.live
  cases hphase : p.phase <;> simp_all

/-! ## Updates -/

/-- A pin and what replaces it, among the others. -/
lemma live_set {pins : List Pin} {i : ℕ} {p p' : Pin} (hp : pins[i]? = some p) :
    ∃ others, (live pins).Perm ((if p.live then [p.site.unique] else []) ++ others) ∧
      (live (pins.set i p')).Perm ((if p'.live then [p'.site.unique] else []) ++ others) := by
  obtain ⟨hi, rfl⟩ := List.getElem?_eq_some_iff.mp hp
  refine ⟨live (pins.take i) ++ live (pins.drop (i + 1)), ?_, ?_⟩
  · conv_lhs => rw [← List.take_append_drop i pins, List.drop_eq_getElem_cons hi]
    simp only [live, List.filter_append, List.map_append, List.filter_cons]
    split <;> simp [List.perm_middle]
  · rw [List.set_eq_take_append_cons_drop, if_pos hi]
    simp only [live, List.filter_append, List.map_append, List.filter_cons]
    split <;> simp [List.perm_middle]

/-- **What a move of one pin has to keep.** The others keep what the move leaves them: their locks, the files
they rely on, and the files they have still to remove. -/
lemma Sound.update {s : Config} (h : Sound s) {i : ℕ} {p p' : Pin} {c : Cache} (hp : s.pins[i]? = some p)
    (hsite : p'.site = p.site)
    (haccounts : Accounts c.book (live (s.pins.set i p'))) (hbound : c.book.total ≤ c.maxBytes)
    (htouched : ∀ sha, p'.Touches sha → sha ∈ keys p.site.unique)
    (hheld : ∀ a sha, p'.Holds a sha → c.locks sha = some (i, a))
    (hlocks : ∀ sha j a, j ≠ i → s.cache.locks sha = some (j, a) → c.locks sha = some (j, a))
    (hgood : ∀ e ∈ p.site.unique, p'.Relies e.1 → Good c e.1 e.2)
    (hblobs : ∀ (j : ℕ) (q : Pin), j ≠ i → s.pins[j]? = some q → ∀ e ∈ q.site.unique, q.Relies e.1 →
      Good s.cache e.1 e.2 → Good c e.1 e.2)
    (hremoves : ∀ sha, p'.Removes sha → ∀ (j : ℕ) (q : Pin), j ≠ i → s.pins[j]? = some q →
      sha ∈ keys q.site.unique → ¬ q.Relies sha)
    (hrelies : ∀ sha ∈ keys p.site.unique, p'.Relies sha → p.Relies sha ∨
      ∀ (j : ℕ) (q : Pin), j ≠ i → s.pins[j]? = some q → ¬ q.Removes sha)
    (hleft : ∀ sha, c.blobs sha ≠ none → 0 < c.book.refs sha ∨ sha ∈ p'.remaining ∨
      ∃ (j : ℕ) (q : Pin), j ≠ i ∧ s.pins[j]? = some q ∧ sha ∈ q.remaining) :
    Sound ⟨c, s.pins.set i p'⟩ := by
  have hi : i < s.pins.length := (List.getElem?_eq_some_iff.mp hp).1
  have hself : (s.pins.set i p')[i]? = some p' := List.getElem?_set_self hi
  have hother : ∀ j, j ≠ i → (s.pins.set i p')[j]? = s.pins[j]? := fun j hj =>
    List.getElem?_set_ne (Ne.symm hj)
  -- A property of the new pin and of every other pin is one of all pins.
  have hall : ∀ P : ℕ → Pin → Prop, P i p' → (∀ j q, j ≠ i → s.pins[j]? = some q → P j q) →
      ∀ j q, (s.pins.set i p')[j]? = some q → P j q := by
    intro P hnew hold j q hq
    by_cases hj : j = i
    · subst hj
      rw [hself] at hq
      obtain rfl := Option.some.inj hq
      exact hnew
    · rw [hother j hj] at hq
      exact hold j q hj hq
  refine ⟨haccounts, hbound, ?_, ?_, ?_, ?_, ?_⟩
  · refine hall _ ?_ fun j q _ hq => h.touched j q hq
    rw [hsite]
    exact htouched
  · exact hall _ hheld fun j q hj hq a sha hholds => hlocks sha j a hj (h.held j q hq a sha hholds)
  · refine hall _ ?_ fun j q hj hq e he hrel => hblobs j q hj hq e he hrel (h.good j q hq e he hrel)
    rw [hsite]
    exact hgood
  · -- Vacancy is between two pins: the new one and another, another and the new one, or two others.
    refine hall (fun i q => ∀ sha, q.Removes sha → ∀ (j : ℕ) (r : Pin), (s.pins.set _ p')[j]? = some r →
      sha ∈ keys r.site.unique → ¬ r.Relies sha) ?_ ?_ |> fun hvacant i q sha hq hrem => hvacant i q hq sha hrem
    · intro sha hrem
      refine hall _ (fun _ hrel => ?_) fun j q hj hq hkey => hremoves sha hrem j q hj hq hkey
      obtain ⟨remaining, hphase⟩ := hrem
      simp [Pin.Relies, hphase] at hrel
    · intro k q hk hq sha hrem
      refine hall _ (fun hkey hrel => ?_) fun j r hj hr => h.vacant k q sha hq hrem j r hr
      rw [hsite] at hkey
      rcases hrelies sha hkey hrel with hrel | hnone
      · exact h.vacant k q sha hq hrem i p hp hkey hrel
      · exact hnone k q hk hq hrem
  · intro sha hblob
    rcases hleft sha hblob with hrefs | hmem | ⟨j, q, hj, hq, hmem⟩
    · exact Or.inl hrefs
    · exact Or.inr ⟨i, p', hself, hmem⟩
    · exact Or.inr ⟨j, q, (hother j hj).trans hq, hmem⟩

/-! ## What a move can be -/

/-- **The moves of a pin**, one by one: the cache and the pin after each. -/
inductive Transition (c : Cache) (i : ℕ) (p : Pin) : Cache → Pin → Prop
  | cancel : Transition c i p c { p with cancelled := true }
  | refuse (concurrency : ℤ) (hphase : p.phase = .reserving concurrency) :
      Transition c i p c { p with phase := .ended }
  | reserve (concurrency : ℤ) (hphase : p.phase = .reserving concurrency)
      (hagree : ∀ e ∈ p.site.unique, 0 < c.book.refs e.1 → c.book.sizes e.1 = e.2)
      (hquota : c.book.total + c.book.added p.site.unique ≤ c.maxBytes) :
      Transition c i p { c with book := c.book.reserve p.site.unique }
        { p with
          phase := .fetching (keys p.site.unique) (List.replicate (workersOf concurrency) .idle) false }
  | dispatch (sha : Sha) (todo : List Sha) (workers : List Worker) (failed : Bool) (w : ℕ)
      (hphase : p.phase = .fetching (sha :: todo) workers failed) (hw : workers[w]? = some .idle) :
      Transition c i p c { p with phase := .fetching todo (workers.set w (.waiting sha)) failed }
  | stop (todo : List Sha) (workers : List Worker) (failed : Bool)
      (hphase : p.phase = .fetching todo workers failed) (hstop : failed = true ∨ p.cancelled = true) :
      Transition c i p c { p with phase := .fetching [] workers failed }
  | work (todo : List Sha) (workers : List Worker) (failed : Bool) (w : ℕ) (worker worker' : Worker)
      (m : WorkerMove) (c' : Cache) (hphase : p.phase = .fetching todo workers failed)
      (hw : workers[w]? = some worker) (hstep : worker.step c (i, some w) p.site m = some (c', worker')) :
      Transition c i p c' { p with phase := .fetching todo (workers.set w worker') failed }
  | unlock (todo : List Sha) (workers : List Worker) (failed : Bool) (w : ℕ) (sha : Sha) (present : Bool)
      (hphase : p.phase = .fetching todo workers failed) (hw : workers[w]? = some (.leaving sha present)) :
      Transition c i p (c.setLock sha none)
        { p with phase := .fetching todo (workers.set w .idle) (failed || !present) }
  | wait (workers : List Worker) (failed : Bool) (hphase : p.phase = .fetching [] workers failed)
      (hidle : ∀ worker ∈ workers, worker = .idle) :
      Transition c i p c { p with phase := if failed ∨ p.cancelled then .releasing else .returned }
  | release (hphase : p.phase = .returned) : Transition c i p c { p with phase := .releasing }
  | unreference (hphase : p.phase = .releasing) :
      Transition c i p { c with book := c.book.release p.site.unique }
        { p with phase := .removing (c.book.dropped p.site.unique) .next }
  | finish (hphase : p.phase = .removing [] .next) : Transition c i p c { p with phase := .ended }
  | lockRemoval (remaining : List Sha) (sha : Sha) (hphase : p.phase = .removing remaining .next)
      (hsha : sha ∈ remaining) (hfree : c.locks sha = none) :
      Transition c i p (c.setLock sha (some (i, none))) { p with phase := .removing remaining (.checking sha) }
  | spare (remaining : List Sha) (sha : Sha) (hphase : p.phase = .removing remaining (.checking sha))
      (hrefs : 0 < c.book.refs sha) :
      Transition c i p c { p with phase := .removing (remaining.erase sha) (.unlocking sha) }
  | condemn (remaining : List Sha) (sha : Sha) (hphase : p.phase = .removing remaining (.checking sha))
      (hrefs : ¬ 0 < c.book.refs sha) :
      Transition c i p c { p with phase := .removing remaining (.removing sha) }
  | remove (remaining : List Sha) (sha : Sha) (hphase : p.phase = .removing remaining (.removing sha)) :
      Transition c i p (c.setBlob sha none)
        { p with phase := .removing (remaining.erase sha) (.unlocking sha) }
  | unlockRemoval (remaining : List Sha) (sha : Sha) (hphase : p.phase = .removing remaining (.unlocking sha)) :
      Transition c i p (c.setLock sha none) { p with phase := .removing remaining .next }

/-- What `reserve` admits. -/
lemma reserve_eq_some {c c' : Cache} {unique : Entries Sha} {free : Option ℤ}
    (h : c.reserve unique free = some c') : (∀ e ∈ unique, 0 < c.book.refs e.1 → c.book.sizes e.1 = e.2) ∧
      c.book.total + c.book.added unique ≤ c.maxBytes ∧ c' = { c with book := c.book.reserve unique } := by
  unfold Cache.reserve at h
  split at h
  · cases h
  · rename_i hagree
    split at h
    · cases h
    · rename_i hquota
      cases free with
      | none => cases h
      | some free =>
        dsimp only at h
        split at h
        · cases h
        · refine ⟨fun e he hrefs => ?_, not_lt.mp hquota, (Option.some.inj h).symm⟩
          by_contra hne
          exact hagree ⟨e, he, hrefs, hne⟩

/-- Every move of a pin that is not returned is one of these. -/
lemma transition_of_pinMove {c c' : Cache} {i : ℕ} {p p' : Pin} {m : Move}
    (h : pinMove c i p p.phase m = some (c', p')) : Transition c i p c' p' := by
  unfold pinMove at h
  split at h
  · rename_i concurrency free hphase
    cases hreserve : c.reserve p.site.unique free with
    | none =>
      rw [hreserve] at h
      obtain ⟨rfl, rfl⟩ := Prod.mk.inj (Option.some.inj h)
      exact .refuse concurrency hphase
    | some c'' =>
      rw [hreserve] at h
      obtain ⟨hagree, hquota, rfl⟩ := reserve_eq_some hreserve
      obtain ⟨rfl, rfl⟩ := Prod.mk.inj (Option.some.inj h)
      exact .reserve concurrency hphase hagree hquota
  · rename_i sha todo workers failed w hphase
    rw [Option.ite_none_right_eq_some] at h
    obtain ⟨hw, h⟩ := h
    obtain ⟨rfl, rfl⟩ := Prod.mk.inj (Option.some.inj h)
    exact .dispatch sha todo workers failed w hphase hw
  · rename_i todo workers failed hphase
    rw [Option.ite_none_right_eq_some] at h
    obtain ⟨hstop, h⟩ := h
    obtain ⟨rfl, rfl⟩ := Prod.mk.inj (Option.some.inj h)
    exact .stop todo workers failed hphase hstop
  · rename_i todo workers failed w m hphase
    cases hw : workers[w]? with
    | none =>
      rw [hw] at h
      cases h
    | some worker =>
      rw [hw] at h
      obtain ⟨⟨c'', worker'⟩, hstep, heq⟩ := Option.map_eq_some_iff.mp h
      obtain ⟨rfl, rfl⟩ := Prod.mk.inj heq
      exact .work todo workers failed w worker worker' m _ hphase hw hstep
  · rename_i todo workers failed w hphase
    split at h
    · rename_i sha present hw
      obtain ⟨rfl, rfl⟩ := Prod.mk.inj (Option.some.inj h)
      exact .unlock todo workers failed w sha present hphase hw
    · cases h
  · rename_i workers failed hphase
    rw [Option.ite_none_right_eq_some] at h
    obtain ⟨hidle, h⟩ := h
    obtain ⟨rfl, rfl⟩ := Prod.mk.inj (Option.some.inj h)
    exact .wait workers failed hphase hidle
  · cases h

/-- Every move of a release is one of these. -/
lemma transition_of_releaseMove {c c' : Cache} {i : ℕ} {p p' : Pin} {m : Move}
    (h : releaseMove c i p p.phase m = some (c', p')) : Transition c i p c' p' := by
  unfold releaseMove at h
  split at h
  · rename_i hphase
    obtain ⟨rfl, rfl⟩ := Prod.mk.inj (Option.some.inj h)
    exact .release hphase
  · rename_i hphase
    obtain ⟨rfl, rfl⟩ := Prod.mk.inj (Option.some.inj h)
    exact .unreference hphase
  · rename_i hphase
    obtain ⟨rfl, rfl⟩ := Prod.mk.inj (Option.some.inj h)
    exact .finish hphase
  · rename_i remaining sha hphase
    rw [Option.ite_none_right_eq_some] at h
    obtain ⟨⟨hsha, hfree⟩, h⟩ := h
    obtain ⟨rfl, rfl⟩ := Prod.mk.inj (Option.some.inj h)
    exact .lockRemoval remaining sha hphase hsha hfree
  · rename_i remaining sha hphase
    by_cases hrefs : 0 < c.book.refs sha
    · rw [if_pos hrefs] at h
      obtain ⟨rfl, rfl⟩ := Prod.mk.inj (Option.some.inj h)
      exact .spare remaining sha hphase hrefs
    · rw [if_neg hrefs] at h
      obtain ⟨rfl, rfl⟩ := Prod.mk.inj (Option.some.inj h)
      exact .condemn remaining sha hphase hrefs
  · rename_i remaining sha hphase
    obtain ⟨rfl, rfl⟩ := Prod.mk.inj (Option.some.inj h)
    exact .remove remaining sha hphase
  · rename_i remaining sha hphase
    obtain ⟨rfl, rfl⟩ := Prod.mk.inj (Option.some.inj h)
    exact .unlockRemoval remaining sha hphase
  · cases h

/-- Every move is one of these. -/
lemma transition_of_move {c c' : Cache} {i : ℕ} {p p' : Pin} {m : Move} (h : move c i p m = some (c', p')) :
    Transition c i p c' p' := by
  unfold move at h
  split at h
  · obtain ⟨rfl, rfl⟩ := Prod.mk.inj (Option.some.inj h)
    exact .cancel
  · rw [Option.orElse_eq_some] at h
    rcases h with hpin | ⟨-, hrelease⟩
    · exact transition_of_pinMove hpin
    · exact transition_of_releaseMove hrelease

/-! ## Moves that leave the cache as it is -/

/-- A file that is there is referenced, or is left to the release of the pin or of another one. -/
lemma Sound.left_cases {s : Config} (h : Sound s) {i : ℕ} {p : Pin} (hp : s.pins[i]? = some p) {sha : Sha}
    (hblob : s.cache.blobs sha ≠ none) : 0 < s.cache.book.refs sha ∨ sha ∈ p.remaining ∨
      ∃ (j : ℕ) (q : Pin), j ≠ i ∧ s.pins[j]? = some q ∧ sha ∈ q.remaining := by
  rcases h.left sha hblob with hrefs | ⟨j, q, hq, hmem⟩
  · exact Or.inl hrefs
  · by_cases hj : j = i
    · subst hj
      rw [hp] at hq
      obtain rfl := Option.some.inj hq
      exact Or.inr (Or.inl hmem)
    · exact Or.inr (Or.inr ⟨j, q, hj, hq, hmem⟩)

/-- A pin that keeps its references keeps the book. -/
lemma Sound.accounts_set {s : Config} (h : Sound s) {i : ℕ} {p p' : Pin} (hp : s.pins[i]? = some p)
    (hsite : p'.site = p.site) (hlive : p'.live = p.live) :
    Accounts s.cache.book (live (s.pins.set i p')) := by
  obtain ⟨others, hbefore, hafter⟩ := @live_set s.pins i p p' hp
  rw [hsite, hlive] at hafter
  exact h.accounts.perm (hbefore.trans hafter.symm)

/-- A pin that has a reference to a digest is counted. -/
lemma Sound.refs_pos {s : Config} (h : Sound s) {j : ℕ} {q : Pin} (hq : s.pins[j]? = some q) {sha : Sha}
    (hkey : sha ∈ keys q.site.unique) (hlive : q.live = true) : 0 < s.cache.book.refs sha :=
  h.accounts.refs_pos_iff.mpr ⟨q.site.unique,
    List.mem_map.mpr ⟨q, List.mem_filter.mpr ⟨List.mem_of_getElem? hq, hlive⟩, rfl⟩, hkey⟩

/-- **A move that leaves the cache as it is** may drop what the pin deals with, holds and relies on, and what its
release has still to remove as far as it is referenced. -/
lemma Sound.quiet {s : Config} (h : Sound s) {i : ℕ} {p p' : Pin} (hp : s.pins[i]? = some p)
    (hsite : p'.site = p.site) (hlive : p'.live = p.live)
    (htouched : ∀ sha, p'.Touches sha → p.Touches sha)
    (hholds : ∀ a sha, p'.Holds a sha → p.Holds a sha)
    (hrelies : ∀ sha, p'.Relies sha → p.Relies sha)
    (hremoves : ∀ sha, p'.Removes sha → p.Removes sha ∨ ¬ 0 < s.cache.book.refs sha)
    (hremaining : ∀ sha ∈ p.remaining, sha ∈ p'.remaining ∨ 0 < s.cache.book.refs sha) :
    Sound ⟨s.cache, s.pins.set i p'⟩ := by
  refine h.update hp hsite (h.accounts_set hp hsite hlive) h.bound ?_ ?_ (fun _ _ _ _ hlock => hlock) ?_
    (fun _ _ _ _ _ _ _ hgood => hgood) ?_ (fun sha _ hrel => Or.inl (hrelies sha hrel)) ?_
  · exact fun sha htouch => h.touched i p hp sha (htouched sha htouch)
  · exact fun a sha hhold => h.held i p hp a sha (hholds a sha hhold)
  · exact fun e he hrel => h.good i p hp e he (hrelies e.1 hrel)
  · intro sha hrem j q _ hq hkey hrel
    rcases hremoves sha hrem with hrem | hrefs
    · exact h.vacant i p sha hp hrem j q hq hkey hrel
    · exact hrefs (h.refs_pos hq hkey hrel.live)
  · intro sha hblob
    rcases h.left_cases hp hblob with hrefs | hmem | hother
    · exact Or.inl hrefs
    · rcases hremaining sha hmem with hmem' | hrefs
      · exact Or.inr (Or.inl hmem')
      · exact Or.inl hrefs
    · exact Or.inr (Or.inr hother)

/-! ## Workers -/

section Workers

variable {workers : List Worker} {w : ℕ} {old new : Worker} {todo : List Sha} {sha : Sha}

/-- Replacing a worker by one of the same kind changes no statement about the workers of that kind. -/
lemma exists_mem_set_iff (hw : workers[w]? = some old) {P : Worker → Prop} (hP : P new ↔ P old) :
    (∃ worker ∈ workers.set w new, P worker) ↔ ∃ worker ∈ workers, P worker := by
  obtain ⟨hlt, rfl⟩ := List.getElem?_eq_some_iff.mp hw
  conv_rhs => rw [← List.take_append_drop w workers, List.drop_eq_getElem_cons hlt]
  rw [List.set_eq_take_append_cons_drop, if_pos hlt]
  simp only [List.mem_append, List.mem_cons, or_and_right, exists_or, exists_eq_left, hP]

lemma getElem?_set_cases {v : ℕ} {worker : Worker} (h : (workers.set w new)[v]? = some worker) :
    (v = w ∧ worker = new) ∨ (v ≠ w ∧ workers[v]? = some worker) := by
  by_cases hv : v = w
  · subst hv
    obtain ⟨hlt, heq⟩ := List.getElem?_eq_some_iff.mp h
    rw [List.getElem_set_self] at heq
    exact Or.inl ⟨rfl, heq.symm⟩
  · rw [List.getElem?_set_ne (Ne.symm hv)] at h
    exact Or.inr ⟨hv, h⟩

/-- A worker that stays at its digest leaves what is pending. -/
lemma pending_set_iff (hw : workers[w]? = some old) (hsha : new.sha? = old.sha?) :
    Pending todo (workers.set w new) sha ↔ Pending todo workers sha := by
  unfold Pending
  rw [exists_mem_set_iff hw (by rw [hsha])]

/-- A digest that is handed to a worker stays pending. -/
lemma pending_dispatch (hw : workers[w]? = some .idle) {first : Sha} :
    Pending todo (workers.set w (.waiting first)) sha ↔ Pending (first :: todo) workers sha := by
  unfold Pending
  by_cases heq : sha = first
  · subst heq
    refine ⟨fun _ => Or.inl List.mem_cons_self, fun _ => Or.inr ⟨.waiting sha, ?_, rfl⟩⟩
    exact List.mem_of_getElem? (List.getElem?_set_self (List.getElem?_eq_some_iff.mp hw).1)
  · rw [exists_mem_set_iff hw (P := fun worker => worker.sha? = some sha), List.mem_cons]
    · simp [heq]
    · exact ⟨fun h => absurd (Option.some.inj h).symm heq, nofun⟩

end Workers

/-- What a worker does within `ensure`: it takes a free lock; leaves the cache as it is, and verified the file if
it says so; removes a file of which its pin has the only reference; or stores a verified file. -/
inductive WorkerTransition (c : Cache) (holder : Holder) (site : Site) (worker : Worker) : Cache → Worker → Prop
  | lock (sha : Sha) (hworker : worker = .waiting sha) (hfree : c.locks sha = none) :
      WorkerTransition c holder site worker (c.setLock sha (some holder)) (.rehashing sha)
  | quiet (worker' : Worker) (sha : Sha) (hsha : worker.sha? = some sha) (hsha' : worker'.sha? = some sha)
      (hlocked : worker.locked? = some sha) (hlocked' : worker'.locked? = some sha)
      (hpresent : ∀ sha', worker' = .leaving sha' true → Good c sha' (site.size sha')) :
      WorkerTransition c holder site worker c worker'
  | discard (sha : Sha) (hworker : worker = .discarding sha) (hrefs : ¬ 1 < c.book.refs sha) :
      WorkerTransition c holder site worker (c.setBlob sha none) (.fetching sha)
  | store (sha : Sha) (body : List UInt8) (hworker : worker = .fetching sha)
      (hverifies : verifies sha (site.size sha) body) :
      WorkerTransition c holder site worker (c.setBlob sha (some body)) (.leaving sha true)

lemma workerTransition_of_step {c c' : Cache} {holder : Holder} {site : Site} {worker worker' : Worker}
    {m : WorkerMove} (h : worker.step c holder site m = some (c', worker')) :
    WorkerTransition c holder site worker c' worker' := by
  unfold Worker.step at h
  split at h
  · rename_i sha
    rw [Option.ite_none_right_eq_some] at h
    obtain ⟨hfree, h⟩ := h
    obtain ⟨rfl, rfl⟩ := Prod.mk.inj (Option.some.inj h)
    exact .lock sha rfl hfree
  · rename_i sha
    obtain ⟨rfl, rfl⟩ := Prod.mk.inj (Option.some.inj h)
    exact .quiet _ sha rfl rfl rfl rfl nofun
  · rename_i sha
    obtain ⟨rfl, rfl⟩ := Prod.mk.inj (Option.some.inj h)
    exact .quiet _ sha rfl rfl rfl rfl nofun
  · rename_i sha
    cases hblob : c.blobs sha with
    | none =>
      rw [hblob] at h
      obtain ⟨rfl, rfl⟩ := Prod.mk.inj (Option.some.inj h)
      exact .quiet _ sha rfl rfl rfl rfl nofun
    | some body =>
      rw [hblob] at h
      dsimp only at h
      by_cases hverifies : verifies sha (site.size sha) body
      · rw [if_pos hverifies] at h
        obtain ⟨rfl, rfl⟩ := Prod.mk.inj (Option.some.inj h)
        refine .quiet _ sha rfl rfl rfl rfl fun sha' heq => ?_
        obtain ⟨rfl, -⟩ := Worker.leaving.inj heq
        exact ⟨body, hblob, hverifies⟩
      · rw [if_neg hverifies] at h
        obtain ⟨rfl, rfl⟩ := Prod.mk.inj (Option.some.inj h)
        exact .quiet _ sha rfl rfl rfl rfl nofun
  · rename_i sha removeFails
    by_cases hkeep : 1 < c.book.refs sha ∨ removeFails = true
    · rw [if_pos hkeep] at h
      obtain ⟨rfl, rfl⟩ := Prod.mk.inj (Option.some.inj h)
      exact .quiet _ sha rfl rfl rfl rfl nofun
    · rw [if_neg hkeep] at h
      obtain ⟨rfl, rfl⟩ := Prod.mk.inj (Option.some.inj h)
      exact .discard sha rfl fun hrefs => hkeep (Or.inl hrefs)
  · rename_i sha
    obtain ⟨rfl, rfl⟩ := Prod.mk.inj (Option.some.inj h)
    exact .quiet _ sha rfl rfl rfl rfl nofun
  · rename_i sha body
    dsimp only at h
    by_cases hverifies : verifies sha (site.size sha) (if 0 < site.size sha then body else [])
    · rw [if_pos hverifies] at h
      obtain ⟨rfl, rfl⟩ := Prod.mk.inj (Option.some.inj h)
      exact .store sha _ rfl hverifies
    · rw [if_neg hverifies] at h
      obtain ⟨rfl, rfl⟩ := Prod.mk.inj (Option.some.inj h)
      exact .quiet _ sha rfl rfl rfl rfl nofun
  · cases h

/-! ## The moves of workers -/

section Fetching

variable {p : Pin} {todo : List Sha} {workers : List Worker} {failed : Bool} {sha : Sha}

lemma Pin.relies_iff (hphase : p.phase = .fetching todo workers failed) : p.Relies sha ↔
    (failed = false ∧ p.cancelled = false ∧ ¬ Pending todo workers sha) ∨ Worker.leaving sha true ∈ workers := by
  rw [Pin.Relies, hphase]

lemma Pin.touches_iff (hphase : p.phase = .fetching todo workers failed) :
    p.Touches sha ↔ Pending todo workers sha := by
  rw [Pin.Touches, hphase]

lemma Pin.holds_iff (hphase : p.phase = .fetching todo workers failed) {a : Option ℕ} : p.Holds a sha ↔
    ∃ w worker, a = some w ∧ workers[w]? = some worker ∧ worker.locked? = some sha := by
  rw [Pin.Holds, hphase]

lemma Pin.live_fetching (hphase : p.phase = .fetching todo workers failed) : p.live = true := by
  rw [Pin.live, hphase]

lemma Pin.remaining_fetching (hphase : p.phase = .fetching todo workers failed) : p.remaining = [] := by
  rw [Pin.remaining, hphase]

lemma Pin.not_removes_fetching (hphase : p.phase = .fetching todo workers failed) : ¬ p.Removes sha := by
  rintro ⟨remaining, heq⟩
  rw [hphase] at heq
  cases heq

end Fetching

/-- A file that the release of another pin removes next is not in the hands of a worker. -/
lemma Sound.not_removes_of_holds {s : Config} (h : Sound s) {i : ℕ} {p : Pin} (hp : s.pins[i]? = some p)
    {a : Option ℕ} {sha : Sha} (hhold : p.Holds a sha) {j : ℕ} {q : Pin} (hj : j ≠ i)
    (hq : s.pins[j]? = some q) : ¬ q.Removes sha := by
  rintro ⟨remaining, hphase⟩
  have hlock := h.held j q hq none sha (by rw [Pin.Holds, hphase]; exact ⟨rfl, rfl⟩)
  rw [h.held i p hp a sha hhold] at hlock
  obtain ⟨hij, -⟩ := Prod.mk.inj (Option.some.inj hlock)
  exact hj hij.symm

/-- Two pins with references to a digest are counted twice. -/
lemma Sound.one_lt_refs {s : Config} (h : Sound s) {i j : ℕ} {p q : Pin} (hp : s.pins[i]? = some p)
    (hq : s.pins[j]? = some q) (hj : j ≠ i) {sha : Sha} (hkey : sha ∈ keys p.site.unique)
    (hlive : p.live = true) (hkey' : sha ∈ keys q.site.unique) (hlive' : q.live = true) :
    1 < s.cache.book.refs sha := by
  obtain ⟨others, hbefore, hafter⟩ := @live_set s.pins i p { p with phase := .ended } hp
  have hq' : q.site.unique ∈ live (s.pins.set i { p with phase := .ended }) := by
    have hmem : q ∈ s.pins.set i { p with phase := .ended } :=
      List.mem_of_getElem? ((List.getElem?_set_ne (Ne.symm hj)).trans hq)
    exact List.mem_map.mpr ⟨q, List.mem_filter.mpr ⟨hmem, hlive'⟩, rfl⟩
  rw [hlive, if_pos rfl] at hbefore
  have hother : q.site.unique ∈ others := by
    have hmem := hafter.mem_iff.mp hq'
    simpa [Pin.live] using hmem
  rw [h.accounts.refs, hbefore.countP_eq, List.singleton_append, List.countP_cons,
    if_pos (by simpa using hkey)]
  push_cast
  refine lt_add_of_pos_left 1 (Int.natCast_pos.mpr (List.countP_pos_iff.mpr ⟨q.site.unique, hother, ?_⟩))
  simpa using hkey'

/-- Two pins with references to a digest give it one size. -/
lemma Sound.size_eq {s : Config} (h : Sound s) {i j : ℕ} {p q : Pin} (hp : s.pins[i]? = some p)
    (hq : s.pins[j]? = some q) (hlive : p.live = true) (hlive' : q.live = true) {e e' : Sha × ℤ}
    (he : e ∈ p.site.unique) (he' : e' ∈ q.site.unique) (hsha : e.1 = e'.1) : e.2 = e'.2 := by
  have hmem : ∀ (k : ℕ) (r : Pin), s.pins[k]? = some r → r.live = true → r.site.unique ∈ live s.pins :=
    fun k r hr hlive => List.mem_map.mpr ⟨r, List.mem_filter.mpr ⟨List.mem_of_getElem? hr, hlive⟩, rfl⟩
  rw [← h.accounts.sizes _ (hmem i p hp hlive) e he, ← h.accounts.sizes _ (hmem j q hq hlive') e' he', hsha]

/-- **A step of a worker keeps the invariant.** -/
lemma Sound.work {s : Config} (h : Sound s) {i : ℕ} {p : Pin} (hp : s.pins[i]? = some p) {todo : List Sha}
    {workers : List Worker} {failed : Bool} {w : ℕ} {worker worker' : Worker} {c' : Cache}
    (hphase : p.phase = .fetching todo workers failed) (hw : workers[w]? = some worker)
    (hstep : WorkerTransition s.cache (i, some w) p.site worker c' worker') :
    Sound ⟨c', s.pins.set i { p with phase := .fetching todo (workers.set w worker') failed }⟩ := by
  have hphase' : ({ p with phase := .fetching todo (workers.set w worker') failed } : Pin).phase =
      .fetching todo (workers.set w worker') failed := rfl
  have hlive := Pin.live_fetching hphase
  have haccounts : Accounts s.cache.book
      (live (s.pins.set i { p with phase := .fetching todo (workers.set w worker') failed })) :=
    h.accounts_set hp rfl (hlive.trans rfl).symm
  -- The worker stays at its digest.
  have hsha : worker'.sha? = worker.sha? := by
    cases hstep with
    | lock sha hworker => rw [hworker]; rfl
    | quiet worker' sha hsha hsha' => rw [hsha, hsha']
    | discard sha hworker => rw [hworker]; rfl
    | store sha body hworker => rw [hworker]; rfl
  have hpending : ∀ sha, Pending todo (workers.set w worker') sha ↔ Pending todo workers sha :=
    fun sha => pending_set_iff hw hsha
  have htouched : ∀ sha, ({ p with phase := .fetching todo (workers.set w worker') failed } : Pin).Touches sha →
      sha ∈ keys p.site.unique := by
    intro sha htouch
    rw [Pin.touches_iff hphase', hpending] at htouch
    exact h.touched i p hp sha ((Pin.touches_iff hphase).mpr htouch)
  -- What the pin relies on afterwards it relied on before, or the worker has just verified it.
  have hrelies : ∀ sha, ({ p with phase := .fetching todo (workers.set w worker') failed } : Pin).Relies sha →
      p.Relies sha ∨ worker' = .leaving sha true := by
    intro sha hrel
    rw [Pin.relies_iff hphase', hpending] at hrel
    rw [Pin.relies_iff hphase]
    rcases hrel with hclean | hmem
    · exact Or.inl (Or.inl hclean)
    · rcases List.mem_or_eq_of_mem_set hmem with hmem | heq
      · exact Or.inl (Or.inr hmem)
      · exact Or.inr heq.symm
  have hremoves : ∀ sha, ({ p with phase := .fetching todo (workers.set w worker') failed } : Pin).Removes sha →
      ∀ (j : ℕ) (q : Pin), j ≠ i → s.pins[j]? = some q → sha ∈ keys q.site.unique → ¬ q.Relies sha :=
    fun sha hrem => absurd hrem (Pin.not_removes_fetching hphase')
  have hself : ∀ sha, worker.locked? = some sha → p.Holds (some w) sha := fun sha hlocked =>
    (Pin.holds_iff hphase).mpr ⟨w, worker, rfl, hw, hlocked⟩
  have hleft : ∀ sha, s.cache.blobs sha ≠ none → 0 < s.cache.book.refs sha ∨
      sha ∈ ({ p with phase := .fetching todo (workers.set w worker') failed } : Pin).remaining ∨
      ∃ (j : ℕ) (q : Pin), j ≠ i ∧ s.pins[j]? = some q ∧ sha ∈ q.remaining := by
    intro sha hblob
    have hcases := h.left_cases hp hblob
    rw [Pin.remaining_fetching hphase] at hcases
    rcases hcases with hrefs | hmem | hother
    · exact Or.inl hrefs
    · exact absurd hmem List.not_mem_nil
    · exact Or.inr (Or.inr hother)
  cases hstep with
  | lock sha hworker hfree =>
    have hne : ∀ sha' holder, s.cache.locks sha' = some holder → sha' ≠ sha := by
      rintro sha' holder hlock rfl
      rw [hfree] at hlock
      cases hlock
    refine h.update hp rfl haccounts h.bound htouched ?_ ?_ ?_ (fun _ _ _ _ _ _ _ hgood => hgood) hremoves ?_ hleft
    · intro a sha' hhold
      obtain ⟨v, other, rfl, hv, hlocked⟩ := (Pin.holds_iff hphase').mp hhold
      rcases getElem?_set_cases hv with ⟨rfl, rfl⟩ | ⟨-, hv⟩
      · obtain rfl := Option.some.inj hlocked
        exact setLock_self
      · have hlock := h.held i p hp (some v) sha' ((Pin.holds_iff hphase).mpr ⟨v, other, rfl, hv, hlocked⟩)
        exact (setLock_of_ne (hne sha' _ hlock)).trans hlock
    · intro sha' j a _ hlock
      exact (setLock_of_ne (hne sha' _ hlock)).trans hlock
    · intro e he hrel
      rcases hrelies e.1 hrel with hrel | heq
      · exact h.good i p hp e he hrel
      · cases heq
    · intro sha' _ hrel
      rcases hrelies sha' hrel with hrel | heq
      · exact Or.inl hrel
      · cases heq
  | quiet worker' sha hsha₀ hsha' hlocked hlocked' hpresent =>
    refine h.update hp rfl haccounts h.bound htouched ?_ (fun _ _ _ _ hlock => hlock) ?_
      (fun _ _ _ _ _ _ _ hgood => hgood) hremoves ?_ hleft
    · intro a sha' hhold
      obtain ⟨v, other, rfl, hv, hother⟩ := (Pin.holds_iff hphase').mp hhold
      apply h.held i p hp
      rcases getElem?_set_cases hv with ⟨rfl, rfl⟩ | ⟨-, hv⟩
      · rw [hlocked'] at hother
        exact hself sha' (hlocked.trans hother)
      · exact (Pin.holds_iff hphase).mpr ⟨v, other, rfl, hv, hother⟩
    · intro e he hrel
      rcases hrelies e.1 hrel with hrel | heq
      · exact h.good i p hp e he hrel
      · rw [← p.site.size_of_mem he]
        exact hpresent e.1 heq
    · intro sha' _ hrel
      rcases hrelies sha' hrel with hrel | heq
      · exact Or.inl hrel
      · rw [heq] at hlocked'
        refine Or.inr fun j q hj hq => h.not_removes_of_holds hp (hself sha' ?_) hj hq
        rw [hlocked, ← hlocked']
        rfl
  | discard sha hworker hrefs =>
    have hholds := hself sha (by rw [hworker]; rfl)
    have hkey := h.touched i p hp sha ((Pin.touches_iff hphase).mpr
      (Or.inr ⟨worker, List.mem_of_getElem? hw, by rw [hworker]; rfl⟩))
    refine h.update hp rfl haccounts h.bound htouched ?_ (fun _ _ _ _ hlock => hlock) ?_ ?_ hremoves ?_ ?_
    · intro a sha' hhold
      obtain ⟨v, other, rfl, hv, hother⟩ := (Pin.holds_iff hphase').mp hhold
      apply h.held i p hp
      rcases getElem?_set_cases hv with ⟨rfl, rfl⟩ | ⟨-, hv⟩
      · obtain rfl := Option.some.inj hother
        exact hholds
      · exact (Pin.holds_iff hphase).mpr ⟨v, other, rfl, hv, hother⟩
    · intro e he hrel
      have hne : e.1 ≠ sha := by
        rintro rfl
        rcases (Pin.relies_iff hphase').mp hrel with ⟨-, -, hnot⟩ | hmem
        · exact hnot (Or.inr ⟨.fetching e.1, List.mem_iff_getElem?.mpr
            ⟨w, by rw [List.getElem?_set_self (List.getElem?_eq_some_iff.mp hw).1]⟩, rfl⟩)
        · -- Another worker of the pin would hold the same lock.
          obtain ⟨v, hv⟩ := List.mem_iff_getElem?.mp hmem
          rcases getElem?_set_cases hv with ⟨-, heq⟩ | ⟨hvw, hv⟩
          · cases heq
          · have hlock := h.held i p hp (some v) e.1 ((Pin.holds_iff hphase).mpr ⟨v, _, rfl, hv, rfl⟩)
            rw [h.held i p hp (some w) e.1 hholds] at hlock
            simp only [Option.some.injEq, Prod.mk.injEq, true_and] at hlock
            exact hvw hlock.symm
      rcases hrelies e.1 hrel with hrel | heq
      · obtain ⟨body, hblob, hverifies⟩ := h.good i p hp e he hrel
        exact ⟨body, (setBlob_of_ne hne).trans hblob, hverifies⟩
      · cases heq
    · intro j q hj hq e he hrel hgood
      have hne : e.1 ≠ sha := by
        rintro rfl
        exact hrefs (h.one_lt_refs hp hq hj hkey hlive (mem_keys.mpr ⟨e, he, rfl⟩) hrel.live)
      obtain ⟨body, hblob, hverifies⟩ := hgood
      exact ⟨body, (setBlob_of_ne hne).trans hblob, hverifies⟩
    · intro sha' _ hrel
      rcases hrelies sha' hrel with hrel | heq
      · exact Or.inl hrel
      · cases heq
    · intro sha' hblob
      apply hleft sha'
      by_cases heq : sha' = sha
      · subst heq
        exact absurd setBlob_self hblob
      · rwa [setBlob_of_ne heq] at hblob
  | store sha body hworker hverifies =>
    have hholds := hself sha (by rw [hworker]; rfl)
    have hkey := h.touched i p hp sha ((Pin.touches_iff hphase).mpr
      (Or.inr ⟨worker, List.mem_of_getElem? hw, by rw [hworker]; rfl⟩))
    have hentry := p.site.mem_of_mem_keys hkey
    refine h.update hp rfl haccounts h.bound htouched ?_ (fun _ _ _ _ hlock => hlock) ?_ ?_ hremoves ?_ ?_
    · intro a sha' hhold
      obtain ⟨v, other, rfl, hv, hother⟩ := (Pin.holds_iff hphase').mp hhold
      apply h.held i p hp
      rcases getElem?_set_cases hv with ⟨rfl, rfl⟩ | ⟨-, hv⟩
      · obtain rfl := Option.some.inj hother
        exact hholds
      · exact (Pin.holds_iff hphase).mpr ⟨v, other, rfl, hv, hother⟩
    · intro e he hrel
      by_cases heq : e.1 = sha
      · subst heq
        rw [p.site.size_of_mem he] at hverifies
        exact ⟨body, setBlob_self, hverifies⟩
      · rcases hrelies e.1 hrel with hrel | hleaving
        · obtain ⟨body', hblob, hverifies'⟩ := h.good i p hp e he hrel
          exact ⟨body', (setBlob_of_ne heq).trans hblob, hverifies'⟩
        · exact absurd (Worker.leaving.inj hleaving).1.symm heq
    · intro j q hj hq e he hrel hgood
      by_cases heq : e.1 = sha
      · have hsize := h.size_eq hp hq hlive hrel.live hentry he heq.symm
        refine ⟨body, ?_, ?_⟩
        · rw [heq]
          exact setBlob_self
        · rw [heq, ← hsize]
          exact hverifies
      · obtain ⟨body', hblob, hverifies'⟩ := hgood
        exact ⟨body', (setBlob_of_ne heq).trans hblob, hverifies'⟩
    · intro sha' _ hrel
      rcases hrelies sha' hrel with hrel | hleaving
      · exact Or.inl hrel
      · obtain ⟨rfl, -⟩ := Worker.leaving.inj hleaving
        exact Or.inr fun j q hj hq => h.not_removes_of_holds hp hholds hj hq
    · intro sha' hblob
      by_cases heq : sha' = sha
      · subst heq
        exact Or.inl (h.refs_pos hp hkey hlive)
      · apply hleft sha'
        rwa [setBlob_of_ne heq] at hblob

/-! ## The other moves -/

section Moves

variable {s : Config} {i : ℕ} {p : Pin}

/-- A reservation that is admitted. -/
lemma Sound.reserve (h : Sound s) (hp : s.pins[i]? = some p) {concurrency : ℤ}
    (hphase : p.phase = .reserving concurrency)
    (hagree : ∀ e ∈ p.site.unique, 0 < s.cache.book.refs e.1 → s.cache.book.sizes e.1 = e.2)
    (hquota : s.cache.book.total + s.cache.book.added p.site.unique ≤ s.cache.maxBytes) :
    Sound ⟨{ s.cache with book := s.cache.book.reserve p.site.unique }, s.pins.set i { p with
      phase := .fetching (keys p.site.unique) (List.replicate (workersOf concurrency) .idle) false }⟩ := by
  have hagree' : ∀ e ∈ p.site.unique, s.cache.book.refs e.1 ≠ 0 → s.cache.book.sizes e.1 = e.2 :=
    fun e he hne => hagree e he (lt_of_le_of_ne h.accounts.refs_nonneg hne.symm)
  have hidle : ∀ worker ∈ List.replicate (workersOf concurrency) Worker.idle, worker = .idle :=
    fun worker hworker => List.eq_of_mem_replicate hworker
  refine h.update hp rfl ?_ hquota ?_ ?_ (fun _ _ _ _ hlock => hlock) ?_ (fun _ _ _ _ _ _ _ hgood => hgood)
    ?_ ?_ ?_
  · obtain ⟨others, hbefore, hafter⟩ := @live_set s.pins i p { p with
      phase := .fetching (keys p.site.unique) (List.replicate (workersOf concurrency) .idle) false } hp
    have hnot : p.live = false := by rw [Pin.live, hphase]
    rw [hnot, if_neg Bool.false_ne_true, List.nil_append] at hbefore
    exact ((h.accounts.perm hbefore).reserve p.site.nodup hagree').perm hafter.symm
  · rintro sha (hmem | ⟨worker, hworker, hsha⟩)
    · exact hmem
    · rw [hidle worker hworker] at hsha
      cases hsha
  · rintro a sha ⟨w, worker, -, hw, hlocked⟩
    rw [hidle worker (List.mem_of_getElem? hw)] at hlocked
    cases hlocked
  · rintro e he (⟨-, -, hnot⟩ | hmem)
    · exact absurd (Or.inl (mem_keys.mpr ⟨e, he, rfl⟩)) hnot
    · exact absurd (hidle _ hmem) (by simp)
  · rintro sha ⟨remaining, hremoving⟩
    cases hremoving
  · rintro sha hkey (⟨-, -, hnot⟩ | hmem)
    · exact absurd (Or.inl hkey) hnot
    · exact absurd (hidle _ hmem) (by simp)
  · intro sha hblob
    have hcases := h.left_cases hp hblob
    rw [Pin.remaining, hphase] at hcases
    rcases hcases with hrefs | hmem | hother
    · left
      change 0 < (p.site.unique.foldl Book.hold s.cache.book).refs sha
      rw [RefCount.refs_foldl_hold p.site.nodup]
      split <;> omega
    · exact absurd hmem List.not_mem_nil
    · exact Or.inr (Or.inr hother)

/-- The references are given back. -/
lemma Sound.unreference (h : Sound s) (hp : s.pins[i]? = some p) (hphase : p.phase = .releasing) :
    Sound ⟨{ s.cache with book := s.cache.book.release p.site.unique },
      s.pins.set i { p with phase := .removing (s.cache.book.dropped p.site.unique) .next }⟩ := by
  obtain ⟨others, hbefore, hafter⟩ := @live_set s.pins i p { p with
    phase := .removing (s.cache.book.dropped p.site.unique) .next } hp
  have hlive : p.live = true := by rw [Pin.live, hphase]
  rw [hlive, if_pos rfl] at hbefore
  have haccounts := h.accounts.perm hbefore
  refine h.update hp rfl (haccounts.release.perm hafter.symm) ?_ nofun nofun (fun _ _ _ _ hlock => hlock) nofun
    (fun _ _ _ _ _ _ _ hgood => hgood) ?_ nofun ?_
  · exact (haccounts.total_le_of_release fun e he => p.site.nonneg he).trans h.bound
  · rintro sha ⟨remaining, hremoving⟩
    cases hremoving
  · intro sha hblob
    have hcases := h.left_cases hp hblob
    rw [Pin.remaining, hphase] at hcases
    rcases hcases with hrefs | hmem | hother
    · by_cases hkey : sha ∈ keys p.site.unique
      · by_cases hlast : s.cache.book.refs sha - 1 ≤ 0
        · exact Or.inr (Or.inl (List.mem_filter.mpr ⟨hkey, by simpa using hlast⟩))
        · left
          change 0 < ((keys p.site.unique).foldl Book.drop s.cache.book).refs sha
          rw [(RefCount.foldl_drop_of_mem p.site.nodup hkey).1, if_neg hlast]
          omega
      · left
        change 0 < ((keys p.site.unique).foldl Book.drop s.cache.book).refs sha
        rw [(RefCount.foldl_drop_of_notMem hkey).1]
        exact hrefs
    · exact absurd hmem List.not_mem_nil
    · exact Or.inr (Or.inr hother)

/-- A lock is given up by its holder. -/
lemma Sound.giveUp (h : Sound s) (hp : s.pins[i]? = some p) {p' : Pin} {a : Option ℕ} {sha : Sha}
    (hhold : p.Holds a sha) (hsite : p'.site = p.site) (hlive : p'.live = p.live)
    (htouched : ∀ sha, p'.Touches sha → p.Touches sha)
    (hholds : ∀ b sha', p'.Holds b sha' → p.Holds b sha' ∧ b ≠ a)
    (hrelies : ∀ sha, p'.Relies sha → p.Relies sha) (hremoves : ∀ sha, ¬ p'.Removes sha)
    (hremaining : p'.remaining = p.remaining) : Sound ⟨s.cache.setLock sha none, s.pins.set i p'⟩ := by
  have hlock := h.held i p hp a sha hhold
  refine h.update hp hsite (h.accounts_set hp hsite hlive) h.bound ?_ ?_ ?_ ?_
    (fun _ _ _ _ _ _ _ hgood => hgood) ?_ (fun sha _ hrel => Or.inl (hrelies sha hrel)) ?_
  · exact fun sha htouch => h.touched i p hp sha (htouched sha htouch)
  · intro b sha' hhold'
    obtain ⟨hold, hne⟩ := hholds b sha' hhold'
    have hlock' := h.held i p hp b sha' hold
    have hsha : sha' ≠ sha := by
      rintro rfl
      rw [hlock] at hlock'
      exact hne (Prod.mk.inj (Option.some.inj hlock')).2.symm
    exact (setLock_of_ne hsha).trans hlock'
  · intro sha' j b hj hlock'
    have hsha : sha' ≠ sha := by
      rintro rfl
      rw [hlock] at hlock'
      exact hj (Prod.mk.inj (Option.some.inj hlock')).1.symm
    exact (setLock_of_ne hsha).trans hlock'
  · exact fun e he hrel => h.good i p hp e he (hrelies e.1 hrel)
  · exact fun sha hrem => absurd hrem (hremoves sha)
  · intro sha hblob
    rw [hremaining]
    exact h.left_cases hp hblob

/-- The release of a pin takes the lock of a digest. -/
lemma Sound.lockRemoval (h : Sound s) (hp : s.pins[i]? = some p) {remaining : List Sha} {sha : Sha}
    (hphase : p.phase = .removing remaining .next) (hfree : s.cache.locks sha = none) :
    Sound ⟨s.cache.setLock sha (some (i, none)),
      s.pins.set i { p with phase := .removing remaining (.checking sha) }⟩ := by
  have hlive : p.live = false := by rw [Pin.live, hphase]
  refine h.update hp rfl (h.accounts_set hp rfl hlive.symm) h.bound nofun ?_ ?_ nofun
    (fun _ _ _ _ _ _ _ hgood => hgood) ?_ nofun ?_
  · rintro a sha' ⟨rfl, rfl⟩
    exact setLock_self
  · intro sha' j a _ hlock
    have hsha : sha' ≠ sha := by
      rintro rfl
      rw [hfree] at hlock
      cases hlock
    exact (setLock_of_ne hsha).trans hlock
  · rintro sha' ⟨_, hremoving⟩
    cases hremoving
  · intro sha' hblob
    have hcases := h.left_cases hp hblob
    rw [Pin.remaining, hphase] at hcases
    exact hcases

/-- The release of a pin removes a file. -/
lemma Sound.remove (h : Sound s) (hp : s.pins[i]? = some p) {remaining : List Sha} {sha : Sha}
    (hphase : p.phase = .removing remaining (.removing sha)) :
    Sound ⟨s.cache.setBlob sha none,
      s.pins.set i { p with phase := .removing (remaining.erase sha) (.unlocking sha) }⟩ := by
  have hlive : p.live = false := by rw [Pin.live, hphase]
  refine h.update hp rfl (h.accounts_set hp rfl hlive.symm) h.bound nofun ?_ (fun _ _ _ _ hlock => hlock) nofun
    ?_ ?_ nofun ?_
  · rintro a sha' ⟨rfl, rfl⟩
    exact h.held i p hp none sha' (by rw [Pin.Holds, hphase]; exact ⟨rfl, rfl⟩)
  · intro j q _ hq e he hrel hgood
    have hne : e.1 ≠ sha := by
      rintro rfl
      exact h.vacant i p e.1 hp ⟨remaining, hphase⟩ j q hq (mem_keys.mpr ⟨e, he, rfl⟩) hrel
    obtain ⟨body, hblob, hverifies⟩ := hgood
    exact ⟨body, (setBlob_of_ne hne).trans hblob, hverifies⟩
  · rintro sha' ⟨_, hremoving⟩
    cases hremoving
  · intro sha' hblob
    have hne : sha' ≠ sha := by
      rintro rfl
      exact hblob setBlob_self
    rw [setBlob_of_ne hne] at hblob
    have hcases := h.left_cases hp hblob
    rw [Pin.remaining, hphase] at hcases
    rcases hcases with hrefs | hmem | hother
    · exact Or.inl hrefs
    · exact Or.inr (Or.inl ((List.mem_erase_of_ne hne).mpr hmem))
    · exact Or.inr (Or.inr hother)

end Moves

/-! ## Runs -/

/-- **Every move keeps the invariant.** -/
lemma Sound.transition {s : Config} (h : Sound s) {i : ℕ} {p p' : Pin} {c : Cache} (hp : s.pins[i]? = some p)
    (ht : Transition s.cache i p c p') : Sound ⟨c, s.pins.set i p'⟩ := by
  cases ht with
  | cancel =>
    refine h.quiet hp rfl rfl (fun _ => id) (fun _ _ => id) ?_ (fun sha hrem => Or.inl hrem)
      fun sha hmem => Or.inl hmem
    intro sha hrel
    cases hphase : p.phase with
    | fetching todo workers failed =>
      rw [Pin.relies_iff hphase]
      rcases (Pin.relies_iff (p := { p with cancelled := true }) hphase).mp hrel with ⟨-, hclean, -⟩ | hmem
      · cases hclean
      · exact Or.inr hmem
    | returned => simp [Pin.Relies, hphase]
    | reserving _ | releasing | removing _ _ | ended => simp [Pin.Relies, hphase] at hrel
  | refuse concurrency hphase =>
    have hlive : p.live = false := by rw [Pin.live, hphase]
    refine h.quiet hp rfl hlive.symm nofun nofun nofun ?_ ?_
    · rintro sha ⟨remaining, hremoving⟩
      cases hremoving
    · rw [Pin.remaining, hphase]
      exact fun sha hmem => absurd hmem List.not_mem_nil
  | reserve concurrency hphase hagree hquota => exact h.reserve hp hphase hagree hquota
  | dispatch sha todo workers failed w hphase hw =>
    have hlive := Pin.live_fetching hphase
    have hpending : ∀ sha', Pending todo (workers.set w (.waiting sha)) sha' ↔
        Pending (sha :: todo) workers sha' := fun sha' => pending_dispatch hw
    refine h.quiet hp rfl hlive.symm ?_ ?_ ?_ ?_ ?_
    · intro sha' htouch
      exact (Pin.touches_iff hphase).mpr ((hpending sha').mp htouch)
    · rintro a sha' ⟨v, other, rfl, hv, hlocked⟩
      rcases getElem?_set_cases hv with ⟨rfl, rfl⟩ | ⟨-, hv⟩
      · cases hlocked
      · exact (Pin.holds_iff hphase).mpr ⟨v, other, rfl, hv, hlocked⟩
    · rintro sha' (⟨hfailed, hcancelled, hnot⟩ | hmem)
      · exact (Pin.relies_iff hphase).mpr (Or.inl ⟨hfailed, hcancelled, fun hpend => hnot ((hpending sha').mpr hpend)⟩)
      · rcases List.mem_or_eq_of_mem_set hmem with hmem | heq
        · exact (Pin.relies_iff hphase).mpr (Or.inr hmem)
        · cases heq
    · rintro sha' ⟨remaining, hremoving⟩
      cases hremoving
    · rw [Pin.remaining_fetching hphase]
      exact fun sha' hmem => absurd hmem List.not_mem_nil
  | stop todo workers failed hphase hstop =>
    have hlive := Pin.live_fetching hphase
    refine h.quiet hp rfl hlive.symm ?_ ?_ ?_ ?_ ?_
    · rintro sha (hmem | hworker)
      · exact absurd hmem List.not_mem_nil
      · exact (Pin.touches_iff hphase).mpr (Or.inr hworker)
    · intro a sha hhold
      exact (Pin.holds_iff hphase).mpr hhold
    · rintro sha (⟨hfailed, hcancelled, -⟩ | hmem)
      · rcases hstop with hstop | hstop
        · exact absurd (hfailed.symm.trans hstop) Bool.false_ne_true
        · exact absurd (hcancelled.symm.trans hstop) Bool.false_ne_true
      · exact (Pin.relies_iff hphase).mpr (Or.inr hmem)
    · rintro sha ⟨remaining, hremoving⟩
      cases hremoving
    · rw [Pin.remaining_fetching hphase]
      exact fun sha hmem => absurd hmem List.not_mem_nil
  | work todo workers failed w worker worker' m _ hphase hw hstep =>
    exact h.work hp hphase hw (workerTransition_of_step hstep)
  | unlock todo workers failed w sha present hphase hw =>
    have hlive := Pin.live_fetching hphase
    have hhold : p.Holds (some w) sha := (Pin.holds_iff hphase).mpr ⟨w, _, rfl, hw, rfl⟩
    refine h.giveUp hp hhold rfl hlive.symm ?_ ?_ ?_ ?_ (Pin.remaining_fetching hphase).symm
    · rintro sha' (hmem | ⟨worker, hworker, hsha⟩)
      · exact (Pin.touches_iff hphase).mpr (Or.inl hmem)
      · rcases List.mem_or_eq_of_mem_set hworker with hworker | rfl
        · exact (Pin.touches_iff hphase).mpr (Or.inr ⟨worker, hworker, hsha⟩)
        · cases hsha
    · rintro b sha' ⟨v, other, rfl, hv, hlocked⟩
      rcases getElem?_set_cases hv with ⟨-, rfl⟩ | ⟨hne, hv⟩
      · cases hlocked
      · exact ⟨(Pin.holds_iff hphase).mpr ⟨v, other, rfl, hv, hlocked⟩, fun heq => hne (Option.some.inj heq)⟩
    · rintro sha' (⟨hfailed, hcancelled, hnot⟩ | hmem)
      · rw [Bool.or_eq_false_iff, Bool.not_eq_false'] at hfailed
        obtain ⟨hfailed, rfl⟩ := hfailed
        rw [Pin.relies_iff hphase]
        by_cases heq : sha' = sha
        · subst heq
          exact Or.inr (List.mem_of_getElem? hw)
        · refine Or.inl ⟨hfailed, hcancelled, fun hpend => hnot ?_⟩
          rcases hpend with hmem | hworker
          · exact Or.inl hmem
          · refine Or.inr ((exists_mem_set_iff hw (P := fun worker => worker.sha? = some sha') ?_).mpr hworker)
            exact ⟨nofun, fun h => absurd (Option.some.inj h).symm heq⟩
      · rcases List.mem_or_eq_of_mem_set hmem with hmem | heq
        · exact (Pin.relies_iff hphase).mpr (Or.inr hmem)
        · cases heq
    · rintro sha' ⟨remaining, hremoving⟩
      cases hremoving
  | wait workers failed hphase hidle =>
    have hlive := Pin.live_fetching hphase
    have hremaining : ∀ sha ∈ p.remaining, False := by
      rw [Pin.remaining_fetching hphase]
      exact fun sha hmem => List.not_mem_nil hmem
    by_cases hfail : failed = true ∨ p.cancelled = true
    · rw [if_pos hfail]
      refine h.quiet hp rfl hlive.symm nofun nofun nofun ?_ fun sha hmem => (hremaining sha hmem).elim
      rintro sha ⟨remaining, hremoving⟩
      cases hremoving
    · rw [if_neg hfail]
      rw [not_or, Bool.not_eq_true, Bool.not_eq_true] at hfail
      refine h.quiet hp rfl hlive.symm nofun nofun ?_ ?_ fun sha hmem => (hremaining sha hmem).elim
      · intro sha _
        refine (Pin.relies_iff hphase).mpr (Or.inl ⟨hfail.1, hfail.2, ?_⟩)
        rintro (hmem | ⟨worker, hworker, hsha⟩)
        · exact List.not_mem_nil hmem
        · rw [hidle worker hworker] at hsha
          cases hsha
      · rintro sha ⟨remaining, hremoving⟩
        cases hremoving
  | release hphase =>
    have hlive : p.live = true := by rw [Pin.live, hphase]
    refine h.quiet hp rfl hlive.symm nofun nofun nofun ?_ ?_
    · rintro sha ⟨remaining, hremoving⟩
      cases hremoving
    · rw [Pin.remaining, hphase]
      exact fun sha hmem => absurd hmem List.not_mem_nil
  | unreference hphase => exact h.unreference hp hphase
  | finish hphase =>
    have hlive : p.live = false := by rw [Pin.live, hphase]
    refine h.quiet hp rfl hlive.symm nofun nofun nofun ?_ ?_
    · rintro sha ⟨remaining, hremoving⟩
      cases hremoving
    · rw [Pin.remaining, hphase]
      exact fun sha hmem => absurd hmem List.not_mem_nil
  | lockRemoval remaining sha hphase hsha hfree => exact h.lockRemoval hp hphase hfree
  | spare remaining sha hphase hrefs =>
    have hlive : p.live = false := by rw [Pin.live, hphase]
    refine h.quiet hp rfl hlive.symm nofun ?_ nofun ?_ ?_
    · rintro a sha' ⟨rfl, rfl⟩
      rw [Pin.Holds, hphase]
      exact ⟨rfl, rfl⟩
    · rintro sha ⟨remaining, hremoving⟩
      cases hremoving
    · rw [Pin.remaining, hphase]
      intro sha' hmem
      by_cases heq : sha' = sha
      · exact Or.inr (heq ▸ hrefs)
      · exact Or.inl ((List.mem_erase_of_ne heq).mpr hmem)
  | condemn remaining sha hphase hrefs =>
    have hlive : p.live = false := by rw [Pin.live, hphase]
    refine h.quiet hp rfl hlive.symm nofun ?_ nofun ?_ ?_
    · rintro a sha' ⟨rfl, rfl⟩
      rw [Pin.Holds, hphase]
      exact ⟨rfl, rfl⟩
    · rintro sha' ⟨remaining', hremoving⟩
      obtain ⟨-, heq⟩ := Phase.removing.inj hremoving
      obtain rfl := Removal.removing.inj heq
      exact Or.inr hrefs
    · rw [Pin.remaining, hphase]
      exact fun sha' hmem => Or.inl hmem
  | remove remaining sha hphase => exact h.remove hp hphase
  | unlockRemoval remaining sha hphase =>
    have hlive : p.live = false := by rw [Pin.live, hphase]
    have hhold : p.Holds none sha := by
      rw [Pin.Holds, hphase]
      exact ⟨rfl, rfl⟩
    refine h.giveUp hp hhold rfl hlive.symm nofun nofun nofun ?_ ?_
    · rintro sha' ⟨remaining, hremoving⟩
      cases hremoving
    · rw [Pin.remaining, Pin.remaining, hphase]

/-- A call adds a pin that has and needs nothing yet. -/
lemma Sound.call {s : Config} (h : Sound s) (site : Site) (concurrency : ℤ) :
    Sound { s with pins := s.pins ++ [⟨site, false, .reserving concurrency⟩] } := by
  have hlive : live (s.pins ++ [⟨site, false, .reserving concurrency⟩]) = live s.pins := by
    simp [live, Pin.live]
  have hcases : ∀ (i : ℕ) (p : Pin), (s.pins ++ [⟨site, false, .reserving concurrency⟩])[i]? = some p →
      s.pins[i]? = some p ∨ p = ⟨site, false, .reserving concurrency⟩ := by
    intro i p hp
    by_cases hi : i < s.pins.length
    · rw [List.getElem?_append_left hi] at hp
      exact Or.inl hp
    · rw [List.getElem?_append_right (not_lt.mp hi)] at hp
      exact Or.inr (List.mem_singleton.mp (List.mem_of_getElem? hp))
  refine ⟨hlive ▸ h.accounts, h.bound, ?_, ?_, ?_, ?_, ?_⟩
  · intro i p hp sha htouch
    rcases hcases i p hp with hp | rfl
    · exact h.touched i p hp sha htouch
    · exact htouch.elim
  · intro i p hp a sha hhold
    rcases hcases i p hp with hp | rfl
    · exact h.held i p hp a sha hhold
    · exact hhold.elim
  · intro i p hp e he hrel
    rcases hcases i p hp with hp | rfl
    · exact h.good i p hp e he hrel
    · exact hrel.elim
  · intro i p sha hp hrem j q hq hkey hrel
    rcases hcases i p hp with hp | rfl
    · rcases hcases j q hq with hq | rfl
      · exact h.vacant i p sha hp hrem j q hq hkey hrel
      · exact hrel.elim
    · obtain ⟨remaining, hphase⟩ := hrem
      cases hphase
  · intro sha hblob
    rcases h.left sha hblob with hrefs | ⟨i, p, hp, hmem⟩
    · exact Or.inl hrefs
    · refine Or.inr ⟨i, p, ?_, hmem⟩
      rw [List.getElem?_append_left (List.getElem?_eq_some_iff.mp hp).1]
      exact hp

/-- **Every event keeps the invariant.** -/
theorem Sound.step {s : Config} (h : Sound s) (event : Event) : Sound (step s event) := by
  cases event with
  | call m concurrency =>
    rw [StaticCache.step]
    split
    · exact h
    · exact h.call _ concurrency
  | move i m =>
    rw [StaticCache.step]
    cases hp : s.pins[i]? with
    | none => exact h
    | some p =>
      dsimp only
      cases hmove : move s.cache i p m with
      | none => exact h
      | some result => exact h.transition hp (transition_of_move hmove)

/-- The invariant holds after every run. -/
lemma Sound.run {s : Config} (h : Sound s) (events : List Event) : Sound (run s events) := by
  induction events generalizing s with
  | nil => exact h
  | cons event events ih => exact ih (h.step event)

lemma sound_openCache {root : String} {maxBytes : ℤ} {c : Cache} (h : openCache root maxBytes = .ok c) :
    Sound ⟨c, []⟩ := by
  unfold openCache at h
  split at h
  · cases h
  · rename_i hopen
    obtain rfl := Except.ok.inj h
    rw [not_or, not_lt] at hopen
    refine ⟨RefCount.accounts_empty, ?_, by simp, by simp, by simp, by simp, by simp⟩
    change (0 : ℤ) ≤ maxBytes
    omega

lemma Transition.maxBytes {c c' : Cache} {i : ℕ} {p p' : Pin} (h : Transition c i p c' p') :
    c'.maxBytes = c.maxBytes := by
  cases h with
  | work todo workers failed w worker worker' m _ hphase hw hstep =>
    cases workerTransition_of_step hstep <;> rfl
  | _ => rfl

/-- No event changes the quota. -/
lemma maxBytes_step (s : Config) (event : Event) : (StaticCache.step s event).cache.maxBytes = s.cache.maxBytes := by
  cases event with
  | call m concurrency =>
    rw [StaticCache.step]
    split <;> rfl
  | move i m =>
    rw [StaticCache.step]
    cases hp : s.pins[i]? with
    | none => rfl
    | some p =>
      dsimp only
      cases hmove : move s.cache i p m with
      | none => rfl
      | some result => exact (transition_of_move hmove).maxBytes

lemma maxBytes_run (s : Config) (events : List Event) : (run s events).cache.maxBytes = s.cache.maxBytes := by
  induction events generalizing s with
  | nil => rfl
  | cons event events ih =>
    rw [run, List.foldl_cons]
    exact (ih _).trans (maxBytes_step s event)

/-- A pin that has no references is not among those that the book accounts for. -/
lemma live_eraseIdx {pins : List Pin} {i : ℕ} {p : Pin} (hp : pins[i]? = some p) (hlive : p.live = false) :
    live (pins.eraseIdx i) = live pins := by
  obtain ⟨hi, rfl⟩ := List.getElem?_eq_some_iff.mp hp
  conv_rhs => rw [← List.take_append_drop i pins, List.drop_eq_getElem_cons hi]
  rw [List.eraseIdx_eq_take_drop_succ]
  simp only [live, List.filter_append, List.filter_cons, hlive, Bool.false_eq_true, if_false]

/-- **The cache never loses a pinned blob and never over-commits.** After any interleaving of pins and releases,
from an empty cache: the occupancy is the sum of the sizes of the referenced digests, within the quota; every
file of a site that is with its caller is there, with its length and its digest; the references, sizes and
occupancy are the only ones that account for the pins other than one that failed or was released; and when all
have ended no file remains.

**Proof sketch.** Every event keeps `Sound`. The accounts of the other pins are those of all pins, since an ended
pin has no references; they determine the book. Where all pins have ended nothing is referenced and nothing is
left to be removed, so `Sound.left` leaves no file. -/
theorem pinned_blobs_present (root : String) (maxBytes : ℤ) (c : Cache) (hopen : openCache root maxBytes = .ok c)
    (events : List Event) :
    (∃ referenced : Finset Sha,
        (∀ sha, sha ∈ referenced ↔ 0 < (run ⟨c, []⟩ events).cache.book.refs sha) ∧
        (run ⟨c, []⟩ events).cache.book.total =
          ∑ sha ∈ referenced, (run ⟨c, []⟩ events).cache.book.sizes sha) ∧
      (run ⟨c, []⟩ events).cache.book.total ≤ maxBytes ∧
      (∀ p ∈ (run ⟨c, []⟩ events).pins, p.phase = .returned → ∀ file ∈ p.site.manifest.files,
        ∃ body, (run ⟨c, []⟩ events).cache.blobs file.bodySha256 = some body ∧
          (body.length : ℤ) = file.contentLength ∧ sha256 body = file.bodySha256) ∧
      (∀ (i : ℕ) (p : Pin), (run ⟨c, []⟩ events).pins[i]? = some p → p.phase = .ended →
        ∀ b, Accounts b (live ((run ⟨c, []⟩ events).pins.eraseIdx i)) ↔
          b = (run ⟨c, []⟩ events).cache.book) ∧
      ((∀ p ∈ (run ⟨c, []⟩ events).pins, p.phase = .ended) →
        ∀ sha, (run ⟨c, []⟩ events).cache.blobs sha = none) := by
  have h := (sound_openCache hopen).run events
  have hmax : (run ⟨c, []⟩ events).cache.maxBytes = maxBytes := by
    rw [maxBytes_run]
    unfold openCache at hopen
    split at hopen
    · cases hopen
    · rw [← Except.ok.inj hopen]
  generalize run ⟨c, []⟩ events = s at h hmax ⊢
  refine ⟨⟨RefCount.held (live s.pins), fun sha => ?_, h.accounts.total⟩, hmax ▸ h.bound, ?_, ?_, ?_⟩
  · rw [RefCount.mem_held, h.accounts.refs_pos_iff]
  · intro p hp hphase file hfile
    obtain ⟨i, hi⟩ := List.getElem?_of_mem hp
    have hrel : p.Relies file.bodySha256 := by
      rw [Pin.Relies, hphase]
      trivial
    obtain ⟨body, hblob, hlength, hdigest⟩ := h.good i p hi _ (p.site.mem_unique hfile) hrel
    exact ⟨body, hblob, hlength, hdigest⟩
  · intro i p hp hphase b
    have hlive : p.live = false := by rw [Pin.live, hphase]
    rw [live_eraseIdx hp hlive]
    refine ⟨fun hb => hb.unique h.accounts, ?_⟩
    rintro rfl
    exact h.accounts
  · intro hended sha
    have hnone : live s.pins = [] := by
      rw [live, List.map_eq_nil_iff, List.filter_eq_nil_iff]
      intro p hp
      rw [Pin.live, hended p hp]
      exact Bool.false_ne_true
    by_contra hblob
    rcases h.left sha hblob with hrefs | ⟨i, p, hp, hmem⟩
    · obtain ⟨entries, hentries, -⟩ := h.accounts.refs_pos_iff.mp hrefs
      rw [hnone] at hentries
      exact List.not_mem_nil hentries
    · rw [Pin.remaining, hended p (List.mem_of_getElem? hp)] at hmem
      exact List.not_mem_nil hmem

namespace Sample

/-- The digest of no bytes. -/
def emptySha : Sha := "e3b0c44298fc1c149afbf4c8996fb92427ae41e4649b934ca495991b7852b855".toList

/-- A site of one empty page. -/
def page : Static.Manifest where
  fallback := none
  files := [⟨emptySha, 0, Static.htmlType, Static.indexPath⟩]
  handler := Static.handlerVersion
  schema := Static.manifestSchema
  schemaVersion := 1

/-- The first pin fetches the page and is returned; the second finds it, but is cancelled. -/
def events : List Event :=
  [.call page 1, .call page 1, .move 0 (.reserve (some (2 ^ 30))), .move 1 (.reserve (some (2 ^ 30))),
    .move 0 (.dispatch 0), .move 0 (.work 0 .lock), .move 0 (.work 0 (.rehash .complete)),
    .move 0 (.work 0 (.fetch (some []))), .move 0 (.unlock 0), .move 0 .wait,
    .move 1 (.dispatch 0), .move 1 (.work 0 .lock), .move 1 .cancel,
    .move 1 (.work 0 (.rehash .complete)), .move 1 (.unlock 0), .move 1 .wait, .move 1 .unreference]

end Sample

/-- Two pins of one site of an empty page: the first fetches the page and is returned, the second finds it and
fails because it is cancelled. -/
theorem pinned_blobs_present_sample :
    openCache "cache" 4096 = .ok ⟨4096, Book.empty, fun _ => none, fun _ => none⟩ ∧
      ∃ s, s = run ⟨⟨4096, Book.empty, fun _ => none, fun _ => none⟩, []⟩ Sample.events ∧
        ∀ p ∈ s.pins, p.phase = .returned → ∀ file ∈ p.site.manifest.files,
          ∃ body, s.cache.blobs file.bodySha256 = some body ∧ (body.length : ℤ) = file.contentLength ∧
            sha256 body = file.bodySha256 := by
  refine ⟨rfl, _, rfl, ?_⟩
  exact (pinned_blobs_present "cache" 4096 _ rfl Sample.events).2.2.1

end StaticCache

end Misscomputer
