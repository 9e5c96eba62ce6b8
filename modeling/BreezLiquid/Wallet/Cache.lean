/-
# BreezLiquid.Wallet.Cache — the updates of the wallet, cached by several processes.

The wallet library hands each update to a persister, and a wallet is opened by applying the cached ones again. The
persister appends with an index it counts up itself, and the database takes only the next index. So a wallet that has
not seen what another process has cached cannot cache anything; a full scan then opens a new wallet and scans again.
What is cached was made on top of all that was cached before, and opening never fails on it. The wiping of the cache in
`create_wallet` is for other causes: that a cached update cannot be read, or that one could not be pushed, after which
the wallet goes on without it and pushes the next.

The library is a parameter: how it encodes updates, applies them, and uses its persister. What is scanned may be anything.
-/
import Mathlib.Algebra.Order.Ring.Nat
import Mathlib.Data.List.Induction
import Mathlib.Logic.Function.Basic
import BreezLiquid.Lib.Pool

namespace BreezLiquid.WalletCache

open Interleaving

/-! ## The wallet library -/

inductive LwkError where
  | persist
  | updateHeightTooOld
  | updateOnDifferentStatus
  | other
  deriving DecidableEq, Repr

/-- The library: wallets `W`, their statuses `S`, updates `U` and ciphertexts `C`. Where it uses a persister, it is given
what the persister does. -/
structure Lwk (W S U C : Type) where
  /-- The wallet of the descriptor, without any update. -/
  empty : W
  apply : W → U → Except LwkError W
  status : W → S
  reunblind : W → W
  serializeEncrypted : U → C
  deserializeDecrypted : C → Option U
  /-- `Wollet::new`, followed for some reads. -/
  new {σ Q : Type} {A : Q → Type} (limit : Nat) (get : Nat → Task σ Q A LwkError (Option U)) : Task σ Q A LwkError W
  /-- `Wollet::apply_update`. The wallet is returned with the result, as it is changed in place. -/
  applyUpdate {σ Q : Type} {A : Q → Type} (push : U → Task σ Q A LwkError Unit) (content : W) (update : U) :
    Task σ Q A LwkError (W × Except LwkError Unit)
  /-- What a wallet is after an update that could not be pushed. -/
  unpushed : W → U → W

section Persisters

variable {W U σ Q : Type} {A : Q → Type} (apply : W → U → Except LwkError W)

/-- The updates of a persister are applied in the order of their indices, until there is none at the next. -/
def applyAll (get : Nat → Task σ Q A LwkError (Option U)) : (limit index : Nat) → W → Task σ Q A LwkError W
  | 0, _, _ => Task.throw .other
  | limit + 1, index, content => do
      match ← get index with
      | none => return content
      | some update => do
          let content ← Task.ofExcept (apply content update)
          applyAll get limit (index + 1) content

/-- An update that applies is pushed. -/
def applyAndPush (unpushed : W → U → W) (push : U → Task σ Q A LwkError Unit) (content : W) (update : U) :
    Task σ Q A LwkError (W × Except LwkError Unit) :=
  match apply content update with
  | .error err => return (content, .error err)
  | .ok applied => do
      match ← (push update).attempt with
      | .ok _ => return (applied, .ok ())
      | .error err => return (unpushed content update, .error err)

end Persisters

/-- An update is read back as it was written, and whether it applies depends on the status alone. A wallet is opened by
applying what is cached, and an update that is applied is pushed. -/
structure Lwk.Lawful {W S U C : Type} (lwk : Lwk W S U C) : Prop where
  roundTrip : ∀ u, lwk.deserializeDecrypted (lwk.serializeEncrypted u) = some u
  apply : ∀ {w₁ w₂ u w₁'}, lwk.status w₁ = lwk.status w₂ → lwk.apply w₁ u = .ok w₁' →
    ∃ w₂', lwk.apply w₂ u = .ok w₂' ∧ lwk.status w₁' = lwk.status w₂'
  reunblind : ∀ w, lwk.status (lwk.reunblind w) = lwk.status w
  new : ∀ {σ Q : Type} {A : Q → Type} (limit : Nat) (get : Nat → Task σ Q A LwkError (Option U)),
    lwk.new limit get = applyAll lwk.apply get limit 0 lwk.empty
  applyUpdate : ∀ {σ Q : Type} {A : Q → Type} (push : U → Task σ Q A LwkError Unit) (content : W) (update : U),
    lwk.applyUpdate push content update = applyAndPush lwk.apply lwk.unpushed push content update

/-! ## The table -/

/-- A row of `wallet_updates`. -/
structure UpdateRow (C : Type) where
  id : Nat
  data : C
  deriving DecidableEq, Repr

section Table

variable {C : Type}

def getNextIndex (rows : List (UpdateRow C)) : Nat :=
  match (rows.map UpdateRow.id).max? with
  | some max => max + 1
  | none => 0

/-- Only the next index may be inserted. -/
def insertWalletUpdate (index : Nat) (update : C) (rows : List (UpdateRow C)) : Except LwkError (List (UpdateRow C)) :=
  if index ≠ getNextIndex rows then .error .persist else .ok (rows ++ [⟨index, update⟩])

def getWalletUpdate (rows : List (UpdateRow C)) (index : Nat) : Option C :=
  (rows.find? fun row => row.id = index).map UpdateRow.data

/-- The rows are numbered in their order. -/
def Numbered (rows : List (UpdateRow C)) : Prop := rows.map UpdateRow.id = List.range rows.length

variable {rows : List (UpdateRow C)}

/-- Rows that are numbered in order are as many as the next index ... -/
theorem getNextIndex_eq (h : Numbered rows) : getNextIndex rows = rows.length := by
  unfold getNextIndex
  rw [h]
  cases hlength : rows.length with
  | zero => rfl
  | succ n =>
      have hmax : (List.range (n + 1)).max? = some n := by
        rw [List.max?_eq_some_iff]
        exact ⟨List.self_mem_range_succ, fun b hb => Nat.lt_succ_iff.mp (List.mem_range.mp hb)⟩
      rw [hmax]

/-- ... so that the next row continues them ... -/
theorem numbered_append_iff {row : UpdateRow C} : Numbered (rows ++ [row]) ↔ Numbered rows ∧ row.id = rows.length := by
  unfold Numbered
  rw [List.map_append, List.length_append, List.length_singleton, List.range_succ, List.map_singleton]
  constructor
  · intro h
    obtain ⟨hrows, hrow⟩ := List.append_inj' h rfl
    exact ⟨hrows, List.singleton_injective hrow⟩
  · rintro ⟨hrows, hrow⟩
    rw [hrows, hrow]

/-- ... and an index finds the row at its place. -/
theorem getWalletUpdate_eq (h : Numbered rows) (index : Nat) :
    getWalletUpdate rows index = (rows.map UpdateRow.data)[index]? := by
  induction rows using List.reverseRecOn with
  | nil => rfl
  | append_singleton rows row ih =>
      obtain ⟨hrows, hrow⟩ := numbered_append_iff.mp h
      have hread := ih hrows
      unfold getWalletUpdate at hread ⊢
      rw [List.find?_append, List.map_append, List.map_singleton]
      rcases Nat.lt_trichotomy index rows.length with hlt | heq | hgt
      · rw [List.getElem?_append_left (by simpa using hlt), ← hread]
        cases hfind : rows.find? (fun row => decide (row.id = index)) with
        | some found => rfl
        | none =>
            rw [hfind, Option.map_none, List.getElem?_map, eq_comm, Option.map_eq_none_iff,
              List.getElem?_eq_none_iff] at hread
            omega
      · have hnone : rows.find? (fun row => decide (row.id = index)) = none := by
          rw [← Option.map_eq_none_iff (f := UpdateRow.data), hread, List.getElem?_eq_none_iff, List.length_map]
          omega
        rw [hnone, Option.none_or, List.find?_cons_of_pos (by simpa using hrow.trans heq.symm), heq]
        simp
      · have hnone : rows.find? (fun row => decide (row.id = index)) = none := by
          rw [← Option.map_eq_none_iff (f := UpdateRow.data), hread, List.getElem?_eq_none_iff, List.length_map]
          omega
        have hne : ¬ row.id = index := by omega
        rw [hnone, Option.none_or, List.find?_cons_of_neg (by simpa using hne), List.find?_nil]
        rw [eq_comm, Option.map_none, List.getElem?_eq_none_iff, List.length_append, List.length_map,
          List.length_singleton]
        omega

/-- An insert that is taken appends, at the next index. -/
theorem insertWalletUpdate_ok (h : Numbered rows) {index : Nat} {update : C} {rows' : List (UpdateRow C)}
    (hinsert : insertWalletUpdate index update rows = .ok rows') :
    index = rows.length ∧ rows' = rows ++ [⟨rows.length, update⟩] ∧ Numbered rows' := by
  unfold insertWalletUpdate at hinsert
  rw [getNextIndex_eq h] at hinsert
  split at hinsert
  · cases hinsert
  · rename_i hindex
    have hindex : index = rows.length := not_not.mp hindex
    subst hindex
    cases hinsert
    exact ⟨rfl, rfl, numbered_append_iff.mpr ⟨h, rfl⟩⟩

end Table

/-! ## Wallets -/

/-- A wallet, with the index that its persister counts up. -/
structure Wollet (W : Type) where
  content : W
  next : Nat
  deriving Repr

/-- The database, which may not work for now, and the wallets of the processes `ι` that use it. `clears` and `failures` are
history variables: a failure is that a cached update cannot be read, or one not be pushed that has the next index. -/
structure CacheState (ι W C : Type) where
  rows : List (UpdateRow C) := []
  works : Bool := true
  wallets : ι → Option (Wollet W) := fun _ => none
  clears : Nat := 0
  failures : Nat := 0

namespace CacheState

variable {ι W C : Type}

def getWalletUpdate (index : Nat) (s : CacheState ι W C) : Except LwkError (Option C) :=
  if s.works then .ok (WalletCache.getWalletUpdate s.rows index) else .error .persist

def noteRead (s : CacheState ι W C) : CacheState ι W C := if s.works then s else { s with failures := s.failures + 1 }

def insertWalletUpdate (index : Nat) (update : C) (s : CacheState ι W C) : Except LwkError (List (UpdateRow C)) :=
  if s.works then WalletCache.insertWalletUpdate index update s.rows else .error .persist

/-- An insert is rolled back if it fails. -/
def inserted (index : Nat) (update : C) (s : CacheState ι W C) : CacheState ι W C :=
  match s.insertWalletUpdate index update with
  | .ok rows => { s with rows }
  | .error _ => if index = getNextIndex s.rows then { s with failures := s.failures + 1 } else s

end CacheState

/-- The tasks of a process. The one service scans the chain for an update of a wallet. -/
abbrev CacheAsync (ι W U C α : Type) :=
  Task (CacheState ι W C) W (fun _ => Except LwkError (Option U)) LwkError α

section Tasks

variable {ι W S U C : Type} [DecidableEq ι] (lwk : Lwk W S U C)

/-- A cached update. -/
def readUpdate (data : C) : Except LwkError U :=
  match lwk.deserializeDecrypted data with
  | some update => .ok update
  | none => .error .persist

/-- The persister's `get`. -/
def getUpdate (index : Nat) : CacheAsync ι W U C (Option U) := do
  match ← Task.atomic CacheState.noteRead fun s => .done (s.getWalletUpdate index) with
  | none => return none
  | some data => do
      let update ← Task.ofExcept (readUpdate lwk data)
      return some update

def push (next : Nat) (update : U) : CacheAsync ι W U C Unit :=
  .atomic (CacheState.inserted next (lwk.serializeEncrypted update)) fun s =>
    .done ((s.insertWalletUpdate next (lwk.serializeEncrypted update)).map fun _ => ())

/-- The persister of a wallet goes on from the next index. -/
def getLwkPersister : CacheAsync ι W U C Nat :=
  .atomic id fun s => .done (if s.works then .ok (getNextIndex s.rows) else .error .other)

def clearCache : CacheAsync ι W U C Unit :=
  .atomic (fun s => if s.works then { s with rows := [], clears := s.clears + 1 } else s) fun s =>
    .done (if s.works then .ok () else .error .other)

def createWallet (limit : Nat) : CacheAsync ι W U C (Wollet W) := do
  let next ← getLwkPersister
  match ← (lwk.new limit (getUpdate lwk)).attempt with
  | .ok content => return { content, next }
  | .error .persist | .error .updateHeightTooOld | .error .updateOnDifferentStatus => do
      clearCache
      let next ← getLwkPersister
      let content ← lwk.new limit (getUpdate lwk)
      return { content, next }
  | .error .other => Task.throw .other

/-- The index of a persister whose update is taken. -/
def nextIndex (next : Nat) : Except LwkError Unit → Nat
  | .ok _ => next + 1
  | .error _ => next

def applyUpdate (wollet : Wollet W) (update : U) : CacheAsync ι W U C (Wollet W × Except LwkError Unit) := do
  let (content, result) ← lwk.applyUpdate (push lwk wollet.next) wollet.content update
  return ({ content, next := nextIndex wollet.next result }, result)

def fullScanToIndex (wollet : Wollet W) : CacheAsync ι W U C (Wollet W × Except LwkError Unit) := do
  match ← Task.ask wollet.content with
  | .error err => return (wollet, .error err)
  | .ok none => return (wollet, .ok ())
  | .ok (some update) => applyUpdate lwk wollet update

def setWallet (i : ι) (wollet : Wollet W) : CacheAsync ι W U C Unit :=
  Task.modify fun s => { s with wallets := Function.update s.wallets i (some wollet) }

/-- The second attempt of a full scan, with a new wallet. -/
def reloadAndScan (i : ι) (limit : Nat) : CacheAsync ι W U C Unit := do
  let newWallet ← createWallet lwk limit
  let scanned ← fullScanToIndex lwk newWallet
  Task.ofExcept scanned.2
  setWallet i scanned.1

/-- The wallet with its transactions reunblinded, if the derivation index has changed. -/
def reunblinded (indexChanged : Bool) (wollet : Wollet W) : Wollet W :=
  if indexChanged then { wollet with content := lwk.reunblind wollet.content } else wollet

def fullScan (i : ι) (indexChanged : Bool) (limit : Nat) : CacheAsync ι W U C Unit := do
  match ← Task.reads fun s : CacheState ι W C => s.wallets i with
  | none => Task.throw .other
  | some wollet => do
      let scanned ← fullScanToIndex lwk (reunblinded lwk indexChanged wollet)
      setWallet i scanned.1
      match scanned.2 with
      | .ok _ => return ()
      | .error .updateHeightTooOld | .error .persist => reloadAndScan lwk i limit
      | .error err => Task.throw err

/-- The start of a process. -/
def newWallet (i : ι) (limit : Nat) : CacheAsync ι W U C Unit := do
  let wollet ← createWallet lwk limit
  setWallet i wollet

inductive Spawned : ι → CacheAsync ι W U C Unit → Prop where
  | newWallet (i : ι) (limit : Nat) : Spawned i (newWallet lwk i limit)
  | fullScan (i : ι) (indexChanged : Bool) (limit : Nat) : Spawned i (fullScan lwk i indexChanged limit)

/-- Each process runs one task at a time, as it locks its wallet, and may be killed at any point. The database may stop
working, and work again. -/
def cacheSystem : System (CacheState ι W C) W (fun _ => Except LwkError (Option U)) LwkError ι where
  effect _ _ s := s
  spawns roles _ i t := i ∉ roles ∧ Spawned lwk i t
  env s s' := ∃ works, s' = { s with works }

/-- No cached update fails to be read, and none with the next index to be pushed. -/
def Works : Cond (CacheState ι W C) ι := fun _ s s' => s'.failures = s.failures

/-! ## What is cached can be applied again -/

/-- The wallet that cached updates lead to. -/
def replay (cached : List C) : Except LwkError W :=
  cached.foldlM (fun content data => do
    let update ← readUpdate lwk data
    lwk.apply content update) lwk.empty

/-- The cached updates. -/
def CacheState.cached (s : CacheState ι W C) : List C := s.rows.map UpdateRow.data

/-- A wallet that may push has the status that the cache leads to. -/
def UpToDate (wollet : Wollet W) (s : CacheState ι W C) : Prop :=
  wollet.next ≤ s.rows.length ∧ (wollet.next = s.rows.length →
    ∃ content, replay lwk s.cached = .ok content ∧ lwk.status wollet.content = lwk.status content)

structure Replayable (s : CacheState ι W C) : Prop where
  numbered : Numbered s.rows
  replays : ∃ content, replay lwk s.cached = .ok content
  wallets : ∀ i wollet, s.wallets i = some wollet → UpToDate lwk wollet s
  kept : s.clears = 0

end Tasks

section Proofs

variable {ι W S U C : Type} {lwk : Lwk W S U C}

/-- The cache only grows. -/
def Grows (s s' : CacheState ι W C) : Prop := s.rows <+: s'.rows

theorem Grows.refl (s : CacheState ι W C) : Grows s s := List.prefix_refl _

theorem Grows.trans {s s' s'' : CacheState ι W C} (h : Grows s s') (h' : Grows s' s'') : Grows s s'' :=
  List.IsPrefix.trans h h'

/-- What was cached is a beginning of what is. -/
theorem Grows.cached {s s' : CacheState ι W C} (h : Grows s s') : s.cached <+: s'.cached := by
  obtain ⟨rows, hrows⟩ := h
  refine ⟨rows.map UpdateRow.data, ?_⟩
  unfold CacheState.cached
  rw [← hrows, List.map_append]

theorem length_cached (s : CacheState ι W C) : s.cached.length = s.rows.length := List.length_map _

/-- A wallet that has fallen behind stays behind. -/
theorem UpToDate.mono {wollet : Wollet W} {s s' : CacheState ι W C} (hgrows : Grows s s')
    (h : UpToDate lwk wollet s) : UpToDate lwk wollet s' := by
  obtain ⟨hle, hreplay⟩ := h
  obtain ⟨rows, hrows⟩ := hgrows
  have hlength : s.rows.length + rows.length = s'.rows.length := by
    rw [← hrows, List.length_append]
  refine ⟨by omega, fun heq => ?_⟩
  cases rows with
  | nil =>
      rw [List.append_nil] at hrows
      unfold CacheState.cached at hreplay ⊢
      rw [← hrows]
      exact hreplay (by rw [heq, ← hrows])
  | cons row rows =>
      rw [List.length_cons] at hlength
      omega

theorem UpToDate.reunblinded (hlwk : lwk.Lawful) (indexChanged : Bool) {wollet : Wollet W} {s : CacheState ι W C}
    (h : UpToDate lwk wollet s) : UpToDate lwk (reunblinded lwk indexChanged wollet) s := by
  cases indexChanged with
  | false => exact h
  | true =>
      refine ⟨h.1, fun hnext => ?_⟩
      obtain ⟨content, hcontent, hstatus⟩ := h.2 hnext
      exact ⟨content, hcontent, (hlwk.reunblind _).trans hstatus⟩

/-- All the cached updates up to an index are applied. -/
def Loaded (lwk : Lwk W S U C) (index : Nat) (content : W) (s : CacheState ι W C) : Prop :=
  index ≤ s.rows.length ∧ replay lwk (s.cached.take index) = .ok content

/-- What was loaded stays a beginning of the cache. -/
theorem Loaded.mono {index : Nat} {content : W} {s s' : CacheState ι W C} (hgrows : Grows s s')
    (h : Loaded lwk index content s) : Loaded lwk index content s' := by
  obtain ⟨hle, hreplay⟩ := h
  obtain ⟨data, hdata⟩ := hgrows.cached
  refine ⟨hle.trans (List.IsPrefix.length_le hgrows), ?_⟩
  rw [← hdata, List.take_append_of_le_length (by rw [length_cached]; exact hle)]
  exact hreplay

/-- Replaying one update more. -/
theorem replay_append (l : List C) (data : C) :
    replay lwk (l ++ [data]) = (replay lwk l).bind fun content => (readUpdate lwk data).bind (lwk.apply content) := by
  unfold replay
  simp only [List.foldlM_append, List.foldlM_cons, List.foldlM_nil, bind_pure]
  rfl

/-- What is cached can be applied piece by piece. -/
theorem Loaded.next {index : Nat} {content : W} {s : CacheState ι W C} (h : Loaded lwk index content s)
    (hs : Replayable lwk s) {data : C} (hdata : getWalletUpdate s.rows index = some data) :
    ∃ update content', readUpdate lwk data = .ok update ∧ lwk.apply content update = .ok content' ∧
      Loaded lwk (index + 1) content' s := by
  rw [getWalletUpdate_eq hs.numbered] at hdata
  obtain ⟨hlt, hget⟩ := List.getElem?_eq_some_iff.mp hdata
  have hlt' : index < s.rows.length := by rwa [List.length_map] at hlt
  have htake : s.cached.take (index + 1) = s.cached.take index ++ [data] := by
    rw [List.take_add_one]
    show _ ++ s.cached[index]?.toList = _
    unfold CacheState.cached
    rw [hdata]
    rfl
  obtain ⟨whole, hwhole⟩ := hs.replays
  have hprefix : ∃ content', replay lwk (s.cached.take (index + 1)) = .ok content' := by
    rw [← List.take_append_drop (index + 1) s.cached] at hwhole
    unfold replay at hwhole
    rw [List.foldlM_append] at hwhole
    obtain ⟨content', hcontent', -⟩ := except_bind_eq_ok.mp hwhole
    exact ⟨content', hcontent'⟩
  obtain ⟨content', hcontent'⟩ := hprefix
  have hsteps : (readUpdate lwk data).bind (lwk.apply content) = .ok content' := by
    rw [← hcontent', htake, replay_append, h.2]
    rfl
  obtain ⟨update, hupdate, happly⟩ := except_bind_eq_ok.mp hsteps
  exact ⟨update, content', hupdate, happly, hlt', hcontent'⟩

/-- A wallet that loaded the cache is up to date with it, up to what was added since. -/
theorem Loaded.upToDate {index next : Nat} {content : W} {s : CacheState ι W C} (h : Loaded lwk index content s)
    (hnext : next ≤ index) : UpToDate lwk ⟨content, next⟩ s := by
  obtain ⟨hle, hreplay⟩ := h
  refine ⟨hnext.trans hle, fun heq => ⟨content, ?_, rfl⟩⟩
  have hall : s.cached.length ≤ index := by
    rw [length_cached]
    exact heq ▸ hnext
  rw [List.take_of_length_le hall] at hreplay
  exact hreplay

/-! ## The tasks -/

variable [DecidableEq ι]

variable (lwk) in
def cacheProtocol : Protocol (CacheState ι W C) ι :=
  .uniform (Replayable lwk) Grows Grows.refl Grows.trans

variable (lwk) in
/-- A part of a task of a process, and what holds when it returns. -/
abbrev CacheSafe {α : Type} (i : ι) (t : CacheAsync ι W U C α) (post : Except LwkError α → CacheState ι W C → Prop)
    (s : CacheState ι W C) : Prop :=
  Safe (cacheSystem lwk) Works (cacheProtocol lwk) i t post s

variable {i : ι}

/-- What an opening leads to; no cached update is the cause of an error. -/
def Opened (lwk : Lwk W S U C) : Except LwkError (Wollet W) → CacheState ι W C → Prop
  | .ok wollet, s => UpToDate lwk wollet s
  | .error err, _ => err = .other

omit [DecidableEq ι] in
/-- The cache is replayable as long as its rows stay. -/
theorem Replayable.of_rows {s s' : CacheState ι W C} (h : Replayable lwk s) (hrows : s'.rows = s.rows)
    (hwallets : s'.wallets = s.wallets) (hclears : s'.clears = s.clears) : Replayable lwk s' := by
  have hgrows : s.rows <+: s'.rows := hrows ▸ List.prefix_refl _
  refine ⟨hrows ▸ h.numbered, ?_, fun i wollet hwollet => ?_, hclears.trans h.kept⟩
  · have hcached : s'.cached = s.cached := congrArg (List.map UpdateRow.data) hrows
    exact hcached ▸ h.replays
  · exact (h.wallets i wollet (hwallets ▸ hwollet)).mono hgrows

/-- Where reading works, what is read is what is cached at the index. -/
theorem safe_getUpdate_bind {α : Type} {index : Nat} {k : Option U → CacheAsync ι W U C α}
    {post : Except LwkError α → CacheState ι W C → Prop} {s : CacheState ι W C}
    (hnone : ∀ s₁, Grows s s₁ → Replayable lwk s₁ → getWalletUpdate s₁.rows index = none →
      CacheSafe lwk i (k none) post s₁)
    (hsome : ∀ s₁ data, Grows s s₁ → Replayable lwk s₁ → getWalletUpdate s₁.rows index = some data →
      CacheSafe lwk i ((Task.ofExcept (readUpdate lwk data)).bind fun update => k (some update)) post s₁) :
    CacheSafe lwk i ((getUpdate lwk index).bind k) post s := by
  intro s₁ h₁ hi hworks
  have hworks : s₁.works = true := by
    have hcount : s₁.noteRead.failures = s₁.failures := hworks
    unfold CacheState.noteRead at hcount
    cases hnow : s₁.works with
    | true => rfl
    | false =>
        rw [hnow] at hcount
        exact absurd hcount (Nat.succ_ne_self _)
  have hread : s₁.getWalletUpdate index = .ok (getWalletUpdate s₁.rows index) := if_pos hworks
  have hsame : s₁.noteRead = s₁ := if_pos hworks
  rw [hsame]
  refine ⟨hi, Grows.refl s₁, ?_⟩
  dsimp only
  rw [hread]
  cases hdata : getWalletUpdate s₁.rows index with
  | none => exact hnone s₁ h₁ hi hdata
  | some data =>
      have hrest := hsome s₁ data h₁ hi hdata
      show CacheSafe lwk i (((Task.ofExcept (readUpdate lwk data)).bind fun update =>
        Task.done (.ok (some update))).bind k) post s₁
      rw [Task.bind_assoc]
      exact hrest

/-- The updates are applied in order, from the first one to the last; by induction on the bound. -/
theorem safe_applyAll (limit : Nat) {index next : Nat} {content : W} {s : CacheState ι W C}
    (h : Loaded lwk index content s) (hnext : next ≤ s.rows.length) :
    CacheSafe lwk i (applyAll lwk.apply (getUpdate lwk) limit index content)
      (fun x s => Opened lwk (x.map fun content => ⟨content, next⟩) s) s := by
  induction limit generalizing index content s with
  | zero => exact fun _ _ _ => rfl
  | succ limit ih =>
      refine safe_getUpdate_bind (fun s₁ h₁ hi hdata => ?_) fun s₁ data h₁ hi hdata => ?_
      · have hnext₁ : next ≤ s₁.rows.length := hnext.trans (List.IsPrefix.length_le h₁)
        have hend : s₁.rows.length ≤ index := by
          rw [getWalletUpdate_eq hi.numbered, List.getElem?_eq_none_iff, List.length_map] at hdata
          exact hdata
        exact fun s₂ h₂ _ => ((h.mono h₁).mono h₂).upToDate (hnext₁.trans hend)
      · obtain ⟨update, content', hupdate, happly, hloaded'⟩ := (h.mono h₁).next hi hdata
        rw [hupdate, Task.ofExcept_ok_bind]
        show CacheSafe lwk i ((Task.ofExcept (lwk.apply content update)).bind fun content =>
          applyAll lwk.apply (getUpdate lwk) limit (index + 1) content) _ s₁
        rw [happly, Task.ofExcept_ok_bind]
        exact ih hloaded' (hnext.trans (List.IsPrefix.length_le h₁))

theorem safe_getLwkPersister_bind {α : Type} {k : Nat → CacheAsync ι W U C α}
    {post : Except LwkError α → CacheState ι W C → Prop} {s : CacheState ι W C}
    (herror : ∀ s, post (.error .other) s)
    (h : ∀ s₁ next, Grows s s₁ → next ≤ s₁.rows.length → CacheSafe lwk i (k next) post s₁) :
    CacheSafe lwk i (getLwkPersister.bind k) post s := by
  intro s₁ h₁ hi _
  refine ⟨hi, Grows.refl s₁, ?_⟩
  dsimp only
  split
  · exact h s₁ _ h₁ (getNextIndex_eq hi.numbered).le
  · exact fun s₂ _ _ => herror s₂

/-- The cache is not wiped. -/
theorem safe_createWallet (hlwk : lwk.Lawful) (limit : Nat) (s : CacheState ι W C) :
    CacheSafe lwk i (createWallet lwk limit) (Opened lwk) s := by
  refine safe_getLwkPersister_bind (fun _ => rfl) fun s₁ next _ hnext => ?_
  have hloaded : Loaded lwk 0 lwk.empty s₁ := ⟨Nat.zero_le _, rfl⟩
  rw [hlwk.new]
  refine Safe.bind (Safe.attempt ((safe_applyAll limit hloaded hnext).mono fun x s _ hx => ?_))
  cases x with
  | ok wollet => exact fun s₂ h₂ _ => UpToDate.mono h₂ hx
  | error err =>
      obtain rfl : err = .other := hx
      exact fun _ _ _ => rfl

/-- The update of a scan is pushed only if the wallet is up to date, and then leads on from the cache. Otherwise the
wallet has fallen behind. -/
theorem safe_push (hlwk : lwk.Lawful) {wollet : Wollet W} {update : U} {content : W} {s : CacheState ι W C}
    (happly : lwk.apply wollet.content update = .ok content) (h : UpToDate lwk wollet s) :
    CacheSafe lwk i (push lwk wollet.next update)
      (fun x s => match x with
        | .ok _ => UpToDate lwk ⟨content, wollet.next + 1⟩ s
        | .error _ => wollet.next < s.rows.length) s := by
  intro s₁ h₁ hi hworks
  obtain ⟨hle, hreplay⟩ := h.mono h₁
  dsimp only
  unfold CacheState.inserted at hworks ⊢
  cases hinserted : s₁.insertWalletUpdate wollet.next (lwk.serializeEncrypted update) with
  | error err =>
      rw [hinserted] at hworks
      dsimp only at hworks ⊢
      -- a failure of the database would have been counted, so the index was taken by another wallet
      have hbehind : ¬ wollet.next = getNextIndex s₁.rows := by
        intro hnext
        have hcount : (if wollet.next = getNextIndex s₁.rows then { s₁ with failures := s₁.failures + 1 }
          else s₁).failures = s₁.failures := hworks
        rw [if_pos hnext] at hcount
        exact Nat.succ_ne_self _ hcount
      rw [if_neg hbehind]
      rw [getNextIndex_eq hi.numbered] at hbehind
      refine ⟨hi, Grows.refl s₁, fun s₂ h₂ _ => ?_⟩
      exact (lt_of_le_of_ne hle hbehind).trans_le (List.IsPrefix.length_le h₂)
  | ok rows =>
      have hinsert : insertWalletUpdate wollet.next (lwk.serializeEncrypted update) s₁.rows = .ok rows := by
        unfold CacheState.insertWalletUpdate at hinserted
        split at hinserted
        · exact hinserted
        · cases hinserted
      obtain ⟨hnext, rfl, hnumbered⟩ := insertWalletUpdate_ok hi.numbered hinsert
      -- the cache replays to what the wallet has, and the update applies to both alike
      obtain ⟨w, hw, hstatus⟩ := hreplay hnext
      obtain ⟨w', hw', hstatus'⟩ := hlwk.apply hstatus happly
      have hgrows : Grows s₁ { s₁ with rows := s₁.rows ++ [⟨s₁.rows.length, lwk.serializeEncrypted update⟩] } :=
        List.prefix_append _ _
      have hreplay' : replay lwk (s₁.cached ++ [lwk.serializeEncrypted update]) = .ok w' := by
        rw [replay_append, hw]
        show (readUpdate lwk (lwk.serializeEncrypted update)).bind (lwk.apply w) = _
        unfold readUpdate
        rw [hlwk.roundTrip]
        exact hw'
      have hcached : CacheState.cached
          { s₁ with rows := s₁.rows ++ [⟨s₁.rows.length, lwk.serializeEncrypted update⟩] } =
          s₁.cached ++ [lwk.serializeEncrypted update] := List.map_append
      refine ⟨⟨hnumbered, ⟨w', ?_⟩, fun j other hj => (hi.wallets j other hj).mono hgrows, hi.kept⟩, hgrows, ?_⟩
      · rw [hcached]
        exact hreplay'
      · intro s₂ h₂ _
        refine UpToDate.mono h₂ ⟨?_, fun _ => ⟨w', ?_, hstatus'⟩⟩
        · show wollet.next + 1 ≤ (s₁.rows ++ [_]).length
          rw [hnext, List.length_append, List.length_singleton]
        · rw [hcached]
          exact hreplay'

/-- A new update is stored at the index the wallet counts, or the scan fails. -/
theorem safe_applyUpdate (hlwk : lwk.Lawful) {wollet : Wollet W} {update : U} {s : CacheState ι W C}
    (h : UpToDate lwk wollet s) :
    CacheSafe lwk i (applyUpdate lwk wollet update) (OnOk fun scanned s => UpToDate lwk scanned.1 s) s := by
  unfold applyUpdate
  rw [hlwk.applyUpdate]
  unfold applyAndPush
  cases happly : lwk.apply wollet.content update with
  | error err => exact fun s₂ h₂ _ => h.mono h₂
  | ok content =>
      refine Safe.bind (Safe.bind (Safe.attempt ((safe_push hlwk happly h).mono fun x s _ hx => ?_)))
      cases x with
      | ok _ => exact fun s₂ h₂ _ s₃ h₃ _ => (UpToDate.mono h₂ hx).mono h₃
      | error err =>
          -- A wallet that has fallen behind cannot push, whatever it is now.
          intro s₂ h₂ _ s₃ h₃ _
          have hlt : wollet.next < s₃.rows.length :=
            (Nat.lt_of_lt_of_le hx (List.IsPrefix.length_le h₂)).trans_le (List.IsPrefix.length_le h₃)
          exact ⟨hlt.le, fun heq => absurd heq hlt.ne⟩

/-- A scan stores what it found, if it found anything. -/
theorem safe_fullScanToIndex (hlwk : lwk.Lawful) {wollet : Wollet W} {s : CacheState ι W C}
    (h : UpToDate lwk wollet s) :
    CacheSafe lwk i (fullScanToIndex lwk wollet) (OnOk fun scanned s => UpToDate lwk scanned.1 s) s := by
  intro s₁ h₁ hi found _ _
  refine ⟨hi, Grows.refl s₁, ?_⟩
  have hcurrent := h.mono h₁
  rcases found with err | _ | update
  · exact fun s₂ h₂ _ => hcurrent.mono h₂
  · exact fun s₂ h₂ _ => hcurrent.mono h₂
  · exact safe_applyUpdate hlwk hcurrent

/-- Replacing the wallet does not touch the cache. -/
theorem safe_setWallet {wollet : Wollet W} {s : CacheState ι W C} (h : UpToDate lwk wollet s) :
    CacheSafe lwk i (setWallet i wollet) (fun _ _ => True) s := by
  intro s₁ h₁ hi _
  refine ⟨⟨hi.numbered, hi.replays, fun j other hj => ?_, hi.kept⟩, Grows.refl s₁, fun _ _ _ => trivial⟩
  by_cases heq : j = i
  · subst heq
    have hset : Function.update s₁.wallets j (some wollet) j = some other := hj
    rw [Function.update_self] at hset
    cases hset
    exact h.mono h₁
  · have hset : Function.update s₁.wallets i (some wollet) j = some other := hj
    rw [Function.update_of_ne heq] at hset
    exact hi.wallets j other hset

/-- A wallet that is not up to date is loaded again, and then scanned ... -/
theorem safe_reloadAndScan (hlwk : lwk.Lawful) (limit : Nat) (s : CacheState ι W C) :
    CacheSafe lwk i (reloadAndScan lwk i limit) (fun _ _ => True) s := by
  refine Safe.bind ((safe_createWallet hlwk limit s).mono fun x s _ hx => ?_)
  cases x with
  | error err => trivial
  | ok wollet =>
      refine Safe.bind ((safe_fullScanToIndex hlwk hx).mono fun x s _ hx => ?_)
      rcases x with err | ⟨wollet, err | _⟩
      · trivial
      · exact fun _ _ _ => trivial
      · exact safe_setWallet hx

/-- ... which is how a scan deals with an outdated wallet and with a failed write. -/
theorem safe_fullScan (hlwk : lwk.Lawful) (indexChanged : Bool) (limit : Nat) (s : CacheState ι W C) :
    CacheSafe lwk i (fullScan lwk i indexChanged limit) (fun _ _ => True) s := by
  refine safe_reads_bind (fun s => Grows.refl s) fun s₁ h₁ hi => ?_
  cases hwallet : s₁.wallets i with
  | none => exact fun _ _ _ => trivial
  | some wollet =>
      have hcurrent : UpToDate lwk (reunblinded lwk indexChanged wollet) s₁ :=
        (hi.wallets i wollet hwallet).reunblinded hlwk indexChanged
      refine Safe.bind ((safe_fullScanToIndex hlwk hcurrent).mono fun x s _ hx => ?_)
      cases x with
      | error err => trivial
      | ok scanned =>
          refine Safe.bind ((safe_setWallet hx).mono fun x s _ _ => ?_)
          cases x with
          | error err => trivial
          | ok _ =>
              obtain ⟨wollet, result⟩ := scanned
              rcases result with (_ | _ | _ | _) | _
              · exact safe_reloadAndScan hlwk limit s
              · exact safe_reloadAndScan hlwk limit s
              · exact fun _ _ _ => trivial
              · exact fun _ _ _ => trivial
              · exact fun _ _ _ => trivial

/-- A wallet that is created applies every cached update, so nothing makes it clear the cache. -/
theorem safe_newWallet (hlwk : lwk.Lawful) (limit : Nat) (s : CacheState ι W C) :
    CacheSafe lwk i (newWallet lwk i limit) (fun _ _ => True) s := by
  refine Safe.bind ((safe_createWallet hlwk limit s).mono fun x s _ hx => ?_)
  cases x with
  | error err => trivial
  | ok wollet => exact safe_setWallet hx

/-! ## Runs -/

/-- The wallets of one cache do not disturb each other: the cache only grows. -/
theorem cache_sound (hlwk : lwk.Lawful) :
    Sound (cacheSystem lwk) (Works (ι := ι)) (cacheProtocol lwk) (fun _ _ => True) where
  compat _ _ _ _ _ h := h
  spawn roles s i t hspawn _ _ _ := by
    refine ⟨fun _ _ => ⟨trivial, trivial⟩, ?_⟩
    cases hspawn.2 with
    | newWallet limit => exact safe_newWallet hlwk limit s
    | fullScan indexChanged limit => exact safe_fullScan hlwk indexChanged limit s
  abort _ _ _ _ := trivial
  env s s' henv hi _ := by
    obtain ⟨works, rfl⟩ := henv
    exact ⟨hi.of_rows rfl rfl rfl, fun _ => Grows.refl s⟩

end Proofs

/-! ## Two processes -/

/-- Updates that say how many come before them. -/
def applyCounted (content : List String) (update : Nat × String) : Except LwkError (List String) :=
  if update.1 = content.length then .ok (content ++ [update.2]) else .error .updateOnDifferentStatus

/-- A library whose wallet moves on though its update cannot be pushed. -/
def countingLwk : Lwk (List String) Nat (Nat × String) (Nat × String) where
  empty := []
  apply := applyCounted
  status := List.length
  reunblind := id
  serializeEncrypted := id
  deserializeDecrypted := some
  new limit get := applyAll applyCounted get limit 0 []
  applyUpdate push := applyAndPush applyCounted (fun content update => content ++ [update.2]) push
  unpushed content update := content ++ [update.2]

/-- The wallet library of the examples meets the assumptions. -/
theorem countingLwk_lawful : countingLwk.Lawful where
  roundTrip _ := rfl
  apply {w₁ w₂ u w₁'} hstatus happly := by
    have hlength : w₁.length = w₂.length := hstatus
    unfold countingLwk applyCounted at happly ⊢
    dsimp only at happly ⊢
    split at happly
    · rename_i hu
      cases happly
      refine ⟨w₂ ++ [u.2], if_pos (hu.trans hlength), ?_⟩
      rw [List.length_append, List.length_append, hlength]
    · cases happly
  reunblind _ := rfl
  new _ _ := rfl
  applyUpdate _ _ _ := rfl

/-- The scans find one update more. -/
def oneMore (_ : Nat) (content : List String) : Except LwkError (Option (Nat × String)) :=
  .ok (some (content.length, "update"))

/-- The state after a task of a process. -/
def afterTask (t : CacheAsync Bool (List String) (Nat × String) (Nat × String) Unit)
    (s : CacheState Bool (List String) (Nat × String)) : CacheState Bool (List String) (Nat × String) :=
  (t.run (fun _ _ s => s) oneMore (0, s)).2.2

/-- Two processes open their wallets, then both scan. The second has to open another one. -/
def twoScans : CacheState Bool (List String) (Nat × String) :=
  afterTask (fullScan countingLwk false false 5) (afterTask (fullScan countingLwk true false 5)
    (afterTask (newWallet countingLwk false 5) (afterTask (newWallet countingLwk true 5) {})))

instance (l : Label Bool) (s s' : CacheState Bool (List String) (Nat × String)) : Decidable (Works l s s') :=
  inferInstanceAs (Decidable (s'.failures = s.failures))

theorem runs_afterTask {t : CacheAsync Bool (List String) (Nat × String) (Nat × String) Unit} {i : Bool}
    (ht : Spawned countingLwk i t) (s : CacheState Bool (List String) (Nat × String))
    (hsteps : t.Steps (fun _ _ s => s) oneMore (Works (.own i)) (0, s)) :
    Runs (cacheSystem countingLwk) Works ⟨s, []⟩ ⟨afterTask t s, []⟩ :=
  runs_spawn (S := cacheSystem countingLwk) (fun _ _ _ => trivial) oneMore ⟨List.not_mem_nil, ht⟩
    (fun _ => ⟨rfl, rfl⟩) hsteps

/-- Two scans, as a run. -/
theorem runs_twoScans : Runs (cacheSystem countingLwk) Works ⟨{}, []⟩ ⟨twoScans, []⟩ :=
  (((runs_afterTask (.newWallet true 5) _ (by decide +kernel)).trans
    (runs_afterTask (.newWallet false 5) _ (by decide +kernel))).trans
    (runs_afterTask (.fullScan true false 5) _ (by decide +kernel))).trans
    (runs_afterTask (.fullScan false false 5) _ (by decide +kernel))

end BreezLiquid.WalletCache
