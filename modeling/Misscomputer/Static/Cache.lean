import Misscomputer.Contract.Codec
import Misscomputer.Lib.Dict
import Misscomputer.Lib.Machine
import Misscomputer.Lib.RefCount
import Misscomputer.Static.Rules

set_option relaxedAutoImplicit false
set_option autoImplicit false

/-!
# The cache of static blobs

The miner's content-addressed store of verified files. Sites are pinned and released concurrently: a pin first
reserves a reference to each of its blobs, then its workers make the blobs present one by one, each under the
lock of its digest; a release gives the references back and then removes the files of the digests that nobody
references any more, again under their locks.

## Main definitions

* `StaticCache.Cache` — the references, the files and the locks.
* `StaticCache.Pin` — one call of `Pin` with the site it returns, up to the end of its release.
* `StaticCache.move` — what a pin does next, and what its surroundings choose for it.
* `StaticCache.step` — the interleaving of any number of pins.

## Implementation notes

The steps are cut where the source takes or gives up a mutex. The main mutex is held within single steps only;
the locks of the digests are part of the state, with their holders. The sizes are integers: a valid manifest
adds at most 256 MiB to the occupancy, so that the source's sum fits its type for every quota below
`2 ^ 63 - 2 ^ 28`. The removal of a file that is there succeeds when nobody references it.

## References

* `pkg/static/cache.go`
-/

namespace Misscomputer

namespace StaticCache

open RefCount (Book Entries keys)

/-- The hexadecimal digits of a digest. -/
abbrev Sha : Type := List Char

/-- `hex.EncodeToString(hash.Sum(nil))`. -/
def sha256 (body : List UInt8) : Sha := (Contract.sha256Hex body).toList

/-- `verifyReader`: the bytes are as many as the size says and have the digest. -/
def verifies (sha : Sha) (size : ℤ) (body : List UInt8) : Prop :=
  (body.length : ℤ) = size ∧ sha256 body = sha

instance (sha : Sha) (size : ℤ) (body : List UInt8) : Decidable (verifies sha size body) :=
  inferInstanceAs (Decidable (_ ∧ _))

/-! ## Sites -/

/-- A manifest that passed `Validate`. -/
structure Site where
  manifest : Static.Manifest
  valid : Static.validate manifest = .ok ()

/-- `unique`: the digests of a site with their sizes, in the order in which they first occur. -/
def Site.unique (site : Site) : Entries Sha :=
  Dict.lasts (site.manifest.files.map fun file => (file.bodySha256, file.contentLength))

/-- The size a site gives to a digest. -/
def Site.size (site : Site) (sha : Sha) : ℤ := (Dict.get site.unique sha).getD 0

/-! ## The cache -/

/-- Who holds the lock of a digest: a worker of a pin, or its release. -/
abbrev Holder : Type := ℕ × Option ℕ

/-- `Cache`, with the files of `blobs/`. -/
structure Cache where
  maxBytes : ℤ
  book : Book Sha
  blobs : Sha → Option (List UInt8)
  locks : Sha → Option Holder

/-- `OpenCache`, on a directory and with a positive quota. -/
def openCache (root : String) (maxBytes : ℤ) : Except String Cache :=
  if root = "" ∨ maxBytes < 1 then .error "static cache needs a directory and a positive byte quota"
  else .ok ⟨maxBytes, Book.empty, fun _ => none, fun _ => none⟩

/-- `freeSpaceReserve`. -/
def freeSpaceReserve : ℤ := 2 ^ 28

/-- `reserve`: `none` where it fails. The free space is what `Statfs` reports, `none` where it fails. -/
def Cache.reserve (c : Cache) (unique : Entries Sha) (free : Option ℤ) : Option Cache :=
  if ∃ e ∈ unique, 0 < c.book.refs e.1 ∧ c.book.sizes e.1 ≠ e.2 then none
  else if c.maxBytes < c.book.total + c.book.added unique then none
  else match free with
    | none => none
    | some free =>
      if free - c.book.added unique < freeSpaceReserve then none
      else some { c with book := c.book.reserve unique }

/-- A file of `blobs/` is written or removed. -/
def Cache.setBlob (c : Cache) (sha : Sha) (body : Option (List UInt8)) : Cache :=
  { c with blobs := Function.update c.blobs sha body }

/-- The lock of a digest is taken or given up. -/
def Cache.setLock (c : Cache) (sha : Sha) (holder : Option Holder) : Cache :=
  { c with locks := Function.update c.locks sha holder }

section Updates

variable {c : Cache} {sha sha' : Sha}

lemma setBlob_self {body : Option (List UInt8)} : (c.setBlob sha body).blobs sha = body :=
  Function.update_self _ _ _

lemma setBlob_of_ne (h : sha' ≠ sha) {body : Option (List UInt8)} :
    (c.setBlob sha body).blobs sha' = c.blobs sha' :=
  Function.update_of_ne h _ _

lemma setLock_self {holder : Option Holder} : (c.setLock sha holder).locks sha = holder :=
  Function.update_self _ _ _

lemma setLock_of_ne (h : sha' ≠ sha) {holder : Option Holder} :
    (c.setLock sha holder).locks sha' = c.locks sha' :=
  Function.update_of_ne h _ _

end Updates

/-! ## Workers -/

/-- A worker of a pin. All but the first two hold the lock of the digest. -/
inductive Worker
  | idle
  | waiting (sha : Sha)
  | rehashing (sha : Sha)
  | discarding (sha : Sha)
  | fetching (sha : Sha)
  | leaving (sha : Sha) (present : Bool)
deriving DecidableEq

/-- The digest a worker is at. -/
def Worker.sha? : Worker → Option Sha
  | idle => none
  | waiting sha | rehashing sha | discarding sha | fetching sha | leaving sha _ => some sha

/-- The digest whose lock a worker holds. -/
def Worker.locked? : Worker → Option Sha
  | idle | waiting _ => none
  | rehashing sha | discarding sha | fetching sha | leaving sha _ => some sha

/-- How a present file is opened and read. -/
inductive Reading
  | complete | openFails | readFails
deriving DecidableEq

/-- A step of a worker within `ensure`. -/
inductive WorkerMove
  | lock
  | rehash (reading : Reading)
  | discard (removeFails : Bool)
  | fetch (body : Option (List UInt8))

/-- `ensure`, from the lock of the digest to before it is given up. A fetch brings the bytes of the body, or
fails at any point up to the rename. -/
def Worker.step (c : Cache) (holder : Holder) (site : Site) : Worker → WorkerMove → Option (Cache × Worker)
  | .waiting sha, .lock =>
    if c.locks sha = none then some (c.setLock sha (some holder), .rehashing sha) else none
  | .rehashing sha, .rehash .openFails => some (c, .leaving sha false)
  | .rehashing sha, .rehash .readFails => some (c, .discarding sha)
  | .rehashing sha, .rehash .complete =>
    match c.blobs sha with
    | none => some (c, .fetching sha)
    | some body =>
      if verifies sha (site.size sha) body then some (c, .leaving sha true) else some (c, .discarding sha)
  | .discarding sha, .discard removeFails =>
    if 1 < c.book.refs sha ∨ removeFails then some (c, .leaving sha false)
    else some (c.setBlob sha none, .fetching sha)
  | .fetching sha, .fetch none => some (c, .leaving sha false)
  | .fetching sha, .fetch (some body) =>
    -- A body without bytes is not asked for.
    let body := if 0 < site.size sha then body else []
    if verifies sha (site.size sha) body then some (c.setBlob sha (some body), .leaving sha true)
    else some (c, .leaving sha false)
  | _, _ => none

/-! ## Pins -/

/-- Where a release is with the digest it removes. -/
inductive Removal
  | next
  | checking (sha : Sha)
  | removing (sha : Sha)
  | unlocking (sha : Sha)
deriving DecidableEq

/-- How far a pin is. -/
inductive Phase
  | reserving (concurrency : ℤ)
  /-- `order`, as far as it is not dispatched yet, the workers, and whether `firstErr` is set. -/
  | fetching (todo : List Sha) (workers : List Worker) (failed : Bool)
  /-- The site is with the caller. -/
  | returned
  /-- `Release` was called. -/
  | releasing
  /-- The references are given back; these files are to be removed. -/
  | removing (remaining : List Sha) (removal : Removal)
  | ended

/-- A call of `Pin`, and its site. -/
structure Pin where
  site : Site
  /-- `ctx.Err() != nil`. -/
  cancelled : Bool
  phase : Phase

/-- What a pin does, or what is done to it. -/
inductive Move
  | cancel
  | reserve (free : Option ℤ)
  | dispatch (w : ℕ)
  | stop
  | work (w : ℕ) (m : WorkerMove)
  | unlock (w : ℕ)
  | wait
  | release
  | unreference
  | lockRemoval (sha : Sha)
  | check
  | remove
  | unlockRemoval
  | finish

/-- `DefaultFetchConcurrency` replaces a concurrency below one. -/
def workersOf (concurrency : ℤ) : ℕ := if concurrency < 1 then 4 else concurrency.toNat

/-- The moves of `Pin`, from the reservation to the return or the release of what was reserved. -/
def pinMove (c : Cache) (i : ℕ) (p : Pin) : Phase → Move → Option (Cache × Pin)
  | .reserving concurrency, .reserve free =>
    match c.reserve p.site.unique free with
    | none => some (c, { p with phase := .ended })
    | some c' =>
      some (c', { p with
        phase := .fetching (keys p.site.unique) (List.replicate (workersOf concurrency) .idle) false })
  | .fetching (sha :: todo) workers failed, .dispatch w =>
    if workers[w]? = some .idle then
      some (c, { p with phase := .fetching todo (workers.set w (.waiting sha)) failed })
    else none
  | .fetching _ workers failed, .stop =>
    if failed ∨ p.cancelled then some (c, { p with phase := .fetching [] workers failed }) else none
  | .fetching todo workers failed, .work w m =>
    match workers[w]? with
    | none => none
    | some worker =>
      (worker.step c (i, some w) p.site m).map fun (c', worker') =>
        (c', { p with phase := .fetching todo (workers.set w worker') failed })
  | .fetching todo workers failed, .unlock w =>
    match workers[w]? with
    | some (.leaving sha present) =>
      some (c.setLock sha none, { p with phase := .fetching todo (workers.set w .idle) (failed || !present) })
    | _ => none
  | .fetching [] workers failed, .wait =>
    if ∀ worker ∈ workers, worker = .idle then
      some (c, { p with phase := if failed ∨ p.cancelled then .releasing else .returned })
    else none
  | _, _ => none

/-- Texts are compared character by character. -/
local instance lawfulBEq_digests : @LawfulBEq (List Char) List.instBEq := inferInstance

/-- The moves of `Release`. It takes the digests to be removed in any order. -/
def releaseMove (c : Cache) (i : ℕ) (p : Pin) : Phase → Move → Option (Cache × Pin)
  | .returned, .release => some (c, { p with phase := .releasing })
  | .releasing, .unreference =>
    some ({ c with book := c.book.release p.site.unique },
      { p with phase := .removing (c.book.dropped p.site.unique) .next })
  | .removing [] .next, .finish => some (c, { p with phase := .ended })
  | .removing remaining .next, .lockRemoval sha =>
    if sha ∈ remaining ∧ c.locks sha = none then
      some (c.setLock sha (some (i, none)), { p with phase := .removing remaining (.checking sha) })
    else none
  | .removing remaining (.checking sha), .check =>
    if 0 < c.book.refs sha then
      some (c, { p with phase := .removing (remaining.erase sha) (.unlocking sha) })
    else some (c, { p with phase := .removing remaining (.removing sha) })
  | .removing remaining (.removing sha), .remove =>
    some (c.setBlob sha none, { p with phase := .removing (remaining.erase sha) (.unlocking sha) })
  | .removing remaining (.unlocking sha), .unlockRemoval =>
    some (c.setLock sha none, { p with phase := .removing remaining .next })
  | _, _ => none

/-- What a pin does next: `none` where it is not at that point. -/
def move (c : Cache) (i : ℕ) (p : Pin) : Move → Option (Cache × Pin)
  | .cancel => some (c, { p with cancelled := true })
  | m => pinMove c i p p.phase m <|> releaseMove c i p p.phase m

/-! ## Interleavings -/

/-- The cache and the pins. -/
structure Config where
  cache : Cache
  pins : List Pin

/-- `Pin` is called with a manifest, or a pin moves. -/
inductive Event
  | call (m : Static.Manifest) (concurrency : ℤ)
  | move (i : ℕ) (m : Move)

/-- One event; one that is not possible changes nothing. -/
def step (s : Config) : Event → Config
  | .call m concurrency =>
    match h : Static.validate m with
    | .error _ => s
    | .ok () => { s with pins := s.pins ++ [⟨⟨m, h⟩, false, .reserving concurrency⟩] }
  | .move i m =>
    match s.pins[i]? with
    | none => s
    | some p =>
      match move s.cache i p m with
      | none => s
      | some (c, p') => ⟨c, s.pins.set i p'⟩

/-- The state after a list of events. -/
def run (s : Config) (events : List Event) : Config := events.foldl step s

end StaticCache

end Misscomputer
