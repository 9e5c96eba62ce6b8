/-
# BreezLiquid.Plugin.Storage — the storage of the plugins.

Every plugin stores its items in the table of cached items that all plugins and the SDK share, under keys that begin
with its id. The values are encrypted with a key of the plugin. The section on isolation says exactly which two
plugins keep out of each other's items.

`scopedKey` joins the id and the key with a dash, and ids may contain dashes themselves. So two plugins have a key in
common exactly if the id of one, with a dash, begins that of the other (`exists_scopedKey_eq_iff`). Isolation is about
runs in which the plugins take turns: what a plugin is answered depends on its own calls only.
-/
import Mathlib.Data.String.Basic
import BreezLiquid.Lib.Noninterference
import BreezLiquid.Lib.Table
import BreezLiquid.Lib.Collections
import BreezLiquid.Lib.Task
import BreezLiquid.Model.Types

namespace BreezLiquid.Plugin

open Tables Noninterference

/-! ## The cached items -/

structure CachedItem where
  key : String
  value : String
  deriving DecidableEq, Repr

/-- The table `cached_items`. -/
abbrev CachedItems := Table CachedItem.key

namespace CachedItems

def getCachedItem (items : CachedItems) (key : String) : Option String := (items.get? key).map CachedItem.value

def updateCachedItem (items : CachedItems) (key value : String) : CachedItems := items.insertOrReplace ⟨key, value⟩

def deleteCachedItem (items : CachedItems) (key : String) : CachedItems := items.deleteWhere fun item => item.key = key

theorem getCachedItem_updateCachedItem (items : CachedItems) (key value key' : String) :
    (items.updateCachedItem key value).getCachedItem key' =
      if key = key' then some value else items.getCachedItem key' := by
  unfold getCachedItem updateCachedItem
  rw [Table.get?_insertOrReplace]
  split <;> rfl

theorem getCachedItem_deleteCachedItem (items : CachedItems) (key key' : String) :
    (items.deleteCachedItem key).getCachedItem key' = if key = key' then none else items.getCachedItem key' := by
  unfold getCachedItem deleteCachedItem
  rw [Table.get?_deleteWhere]
  cases hitem : items.get? key' with
  | none =>
      rw [Option.filter_none]
      split <;> rfl
  | some item =>
      have hkey : item.key = key' := Table.get?_some_key hitem
      subst hkey
      by_cases hsame : key = item.key
      · simp [hsame]
      · have hother : item.key ≠ key := fun h => hsame h.symm
        simp [hsame, hother]

end CachedItems

/-! ## The storage of one plugin -/

inductive PluginStorageError where
  | encryption (err : String)
  | generic (err : String)
  deriving DecidableEq, Repr

/-- The cipher `Aes256Gcm` by its key, and the hex codec. Decryption fails on what another key encrypted. -/
structure Cipher where
  encrypt : (key nonce data : ByteArray) → Except String ByteArray
  decrypt : (key nonce data : ByteArray) → Except String ByteArray
  hexEncode : ByteArray → String
  hexDecode : String → Except String ByteArray

/-- The id is not empty, see `PluginStorage.new`. -/
structure PluginStorage where
  pluginId : String
  passphrase : ByteArray
  pluginId_ne : pluginId ≠ ""

namespace PluginStorage

def new (passphrase : ByteArray) (pluginId : String) : Except Err PluginStorage :=
  if h : pluginId = "" then .error (.generic "Plugin ID cannot be an empty string!")
  else .ok ⟨pluginId, passphrase, h⟩

theorem pluginId_of_new {passphrase : ByteArray} {pluginId : String} {storage : PluginStorage}
    (h : new passphrase pluginId = .ok storage) : storage.pluginId = pluginId := by
  unfold new at h
  split at h
  · cases h
  · cases h
    rfl

/-- The weak reference to the persister is gone once the SDK is dropped. -/
def getPersister (persister : Option CachedItems) : Except PluginStorageError CachedItems :=
  match persister with
  | some items => .ok items
  | none => .error (.generic "SDK is not running.")

section Items

variable (cipher : Cipher) (storage : PluginStorage)

/-- `encrypt`, with the nonce that is drawn. -/
def encrypt (nonce : ByteArray) (data : String) : Except PluginStorageError String :=
  match cipher.encrypt storage.passphrase nonce data.toUTF8 with
  | .ok encrypted => .ok (cipher.hexEncode (nonce ++ encrypted))
  | .error err => .error (.encryption err)

/-- `decrypt`, or none where `split_at(12)` panics on a text that is too short. -/
def decrypt (data : String) : Option (Except PluginStorageError String) :=
  match cipher.hexDecode data with
  | .error err => some (.error (.encryption err))
  | .ok decoded =>
      if decoded.size < 12 then none
      else
        match cipher.decrypt storage.passphrase (decoded.extract 0 12) (decoded.extract 12 decoded.size) with
        | .error err => some (.error (.encryption err))
        | .ok decrypted =>
            match String.fromUTF8? decrypted with
            | some result => some (.ok result)
            | none => some (.error (.encryption "invalid utf-8 sequence"))

def scopedKey (key : String) : String := storage.pluginId ++ "-" ++ key

/-- `set_item`: the table afterwards, and the result. -/
def setItem (key value : String) (nonce : ByteArray) (persister : Option CachedItems) :
    Option CachedItems × Except PluginStorageError Unit :=
  let scopedKey := storage.scopedKey key
  match getPersister persister with
  | .error err => (persister, .error err)
  | .ok items =>
      match storage.encrypt cipher nonce value with
      | .error err => (persister, .error err)
      | .ok encrypted => (some (items.updateCachedItem scopedKey encrypted), .ok ())

/-- `get_item`, or none where `decrypt` panics. -/
def getItem (key : String) (persister : Option CachedItems) : Option (Except PluginStorageError (Option String)) :=
  let scopedKey := storage.scopedKey key
  match getPersister persister with
  | .error err => some (.error err)
  | .ok items =>
      match items.getCachedItem scopedKey with
      | some value => (storage.decrypt cipher value).map fun result => result.map some
      | none => some (.ok none)

def removeItem (key : String) (persister : Option CachedItems) : Option CachedItems × Except PluginStorageError Unit :=
  let scopedKey := storage.scopedKey key
  match getPersister persister with
  | .error err => (persister, .error err)
  | .ok items => (some (items.deleteCachedItem scopedKey), .ok ())

end Items

end PluginStorage

/-- The check of `init_plugins` for naming conflicts: the first id that was seen before. -/
def conflictingId (seen : List String) : List String → Option String
  | [] => none
  | id :: ids => if id ∈ seen then some id else conflictingId (id :: seen) ids

/-- `init_plugins`: no two plugins with one id, then a storage for each, with a passphrase derived from the seed and
the id. -/
def initPlugins (hmacSha256 : String → Except String ByteArray) (ids : List String) :
    Except Err (List PluginStorage) :=
  match conflictingId [] ids with
  | some id => .error (.generic ("Attempted to start SDK with two plugins with equal ID: `" ++ id ++ "`"))
  | none => ids.mapM fun id =>
      match hmacSha256 id with
      | .error err => .error (.generic ("Could not generate plugin passphrase: " ++ err))
      | .ok passphrase => PluginStorage.new passphrase id

theorem conflictingId_eq_none {seen ids : List String} :
    conflictingId seen ids = none ↔ ids.Nodup ∧ ∀ id ∈ ids, id ∉ seen := by
  induction ids generalizing seen with
  | nil => simp [conflictingId]
  | cons id ids ih =>
      unfold conflictingId
      by_cases hseen : id ∈ seen
      · rw [if_pos hseen]
        refine iff_of_false (fun h => by cases h) ?_
        rintro ⟨-, h⟩
        exact h id List.mem_cons_self hseen
      · rw [if_neg hseen, ih, List.nodup_cons]
        constructor
        · rintro ⟨hnodup, hfresh⟩
          refine ⟨⟨fun hmem => hfresh id hmem List.mem_cons_self, hnodup⟩, ?_⟩
          intro id' hmem
          rcases List.mem_cons.mp hmem with rfl | hmem
          · exact hseen
          · exact fun h => hfresh id' hmem (List.mem_cons_of_mem _ h)
        · rintro ⟨⟨hnot, hnodup⟩, hfresh⟩
          refine ⟨hnodup, ?_⟩
          intro id' hmem h
          rcases List.mem_cons.mp h with rfl | h
          · exact hnot hmem
          · exact hfresh id' (List.mem_cons_of_mem _ hmem) h

/-- The plugins that are started have different ids. -/
theorem initPlugins_nodup {hmacSha256 : String → Except String ByteArray} {ids : List String}
    {storages : List PluginStorage} (h : initPlugins hmacSha256 ids = .ok storages) :
    (storages.map PluginStorage.pluginId).Nodup := by
  unfold initPlugins at h
  split at h
  · cases h
  · rename_i hids
    have hnodup := (conflictingId_eq_none.mp hids).1
    suffices hsame : storages.map PluginStorage.pluginId = ids by
      rw [hsame]
      exact hnodup
    have hstorages := Interleaving.mapM_eq_ok.mp h
    clear hids hnodup h
    induction hstorages with
    | nil => rfl
    | @cons id storage ids storages hstorage _ ih =>
        have hid : storage.pluginId = id := by
          split at hstorage
          · cases hstorage
          · exact PluginStorage.pluginId_of_new hstorage
        rw [List.map_cons, hid, ih]

/-! ## Isolation -/

/-- A call of a plugin; `setItem` has the nonce it draws. -/
inductive Call where
  | setItem (key value : String) (nonce : ByteArray)
  | getItem (key : String)
  | removeItem (key : String)

/-- The answer to a call: the item if it was one for it; none where it panics. -/
abbrev Answer := Option (Except PluginStorageError (Option String))

/-- The plugins and the table. -/
def plugins {ι : Type} (cipher : Cipher) (storages : ι → PluginStorage) :
    Machine (Option CachedItems) ι Call Answer where
  step persister i call :=
    match call with
    | .setItem key value nonce =>
        let (persister', result) := (storages i).setItem cipher key value nonce persister
        (persister', some (result.map fun _ => none))
    | .getItem key => (persister, (storages i).getItem cipher key persister)
    | .removeItem key =>
        let (persister', result) := (storages i).removeItem key persister
        (persister', some (result.map fun _ => none))

/-- The id begins with the other id and the separator. -/
def Begins (pluginId other : String) : Prop := (pluginId ++ "-").toList <+: other.toList

instance (pluginId other : String) : Decidable (Begins pluginId other) :=
  inferInstanceAs (Decidable ((pluginId ++ "-").toList <+: other.toList))

/-- Two plugins have a key in common exactly if one id begins the other. -/
theorem exists_scopedKey_eq_iff {p q : PluginStorage} (h : p.pluginId ≠ q.pluginId) :
    (∃ key key', p.scopedKey key = q.scopedKey key') ↔ Begins p.pluginId q.pluginId ∨ Begins q.pluginId p.pluginId := by
  have hsep : ("-" : String).toList = ['-'] := rfl
  have hkeys : (∃ key key', p.scopedKey key = q.scopedKey key') ↔
      ∃ tail tail', p.pluginId.toList ++ '-' :: tail = q.pluginId.toList ++ '-' :: tail' := by
    unfold PluginStorage.scopedKey
    constructor
    · rintro ⟨key, key', heq⟩
      refine ⟨key.toList, key'.toList, ?_⟩
      have hlists := congrArg String.toList heq
      simpa [hsep] using hlists
    · rintro ⟨tail, tail', heq⟩
      refine ⟨String.ofList tail, String.ofList tail', ?_⟩
      rw [← String.toList_inj]
      simpa [hsep] using heq
  have hne : p.pluginId.toList ≠ q.pluginId.toList := fun heq => h (String.toList_inj.mp heq)
  rw [hkeys, Collections.exists_append_separator_iff, or_iff_right hne]
  unfold Begins
  rw [String.toList_append, String.toList_append, hsep]

/-- The items under the keys of a plugin are the same. -/
def SameItems (storage : PluginStorage) (persister persister' : Option CachedItems) : Prop :=
  match persister, persister' with
  | none, none => True
  | some items, some items' => ∀ key,
      items.getCachedItem (storage.scopedKey key) = items'.getCachedItem (storage.scopedKey key)
  | _, _ => False

theorem sameItems_refl (storage : PluginStorage) (persister : Option CachedItems) :
    SameItems storage persister persister := by
  cases persister with
  | none => trivial
  | some items => exact fun key => rfl

/-- What a plugin finds under its keys decides its answers, and what it does to them. -/
theorem step_own {ι : Type} {cipher : Cipher} {storages : ι → PluginStorage} {i : ι} {call : Call}
    {persister persister' : Option CachedItems} (h : SameItems (storages i) persister persister') :
    ((plugins cipher storages).step persister i call).2 = ((plugins cipher storages).step persister' i call).2 ∧
      SameItems (storages i) ((plugins cipher storages).step persister i call).1
        ((plugins cipher storages).step persister' i call).1 := by
  cases persister with
  | none =>
      cases persister' with
      | none => exact ⟨rfl, sameItems_refl _ _⟩
      | some items' => exact absurd h id
  | some items =>
      cases persister' with
      | none => exact absurd h id
      | some items' =>
          have hitems : ∀ key, items.getCachedItem ((storages i).scopedKey key) =
            items'.getCachedItem ((storages i).scopedKey key) := h
          cases call with
          | setItem key value nonce =>
              simp only [plugins, PluginStorage.setItem, PluginStorage.getPersister]
              cases (storages i).encrypt cipher nonce value with
              | error err => exact ⟨rfl, h⟩
              | ok encrypted =>
                  refine ⟨rfl, ?_⟩
                  intro key'
                  rw [CachedItems.getCachedItem_updateCachedItem, CachedItems.getCachedItem_updateCachedItem, hitems]
          | getItem key =>
              simp only [plugins, PluginStorage.getItem, PluginStorage.getPersister]
              rw [hitems]
              exact ⟨rfl, h⟩
          | removeItem key =>
              refine ⟨rfl, ?_⟩
              intro key'
              show (items.deleteCachedItem _).getCachedItem _ = (items'.deleteCachedItem _).getCachedItem _
              rw [CachedItems.getCachedItem_deleteCachedItem, CachedItems.getCachedItem_deleteCachedItem, hitems]

/-- A plugin with other keys leaves them alone. -/
theorem step_other {ι : Type} {cipher : Cipher} {storages : ι → PluginStorage} {p : PluginStorage} {j : ι}
    (hkeys : ¬ ∃ key key', p.scopedKey key = (storages j).scopedKey key') {call : Call}
    {persister persister' : Option CachedItems} (h : SameItems p persister persister') :
    SameItems p ((plugins cipher storages).step persister j call).1 persister' := by
  have hother : ∀ key key', ¬ (storages j).scopedKey key' = p.scopedKey key := by
    intro key key' heq
    exact hkeys ⟨key, key', heq.symm⟩
  cases persister with
  | none =>
      cases call <;> exact h
  | some items =>
      cases persister' with
      | none => exact absurd h id
      | some items' =>
          have hitems : ∀ key, items.getCachedItem (p.scopedKey key) = items'.getCachedItem (p.scopedKey key) := h
          cases call with
          | setItem key value nonce =>
              simp only [plugins, PluginStorage.setItem, PluginStorage.getPersister]
              cases (storages j).encrypt cipher nonce value with
              | error err => exact h
              | ok encrypted =>
                  intro key'
                  rw [CachedItems.getCachedItem_updateCachedItem, if_neg (hother key' key)]
                  exact hitems key'
          | getItem key => exact h
          | removeItem key =>
              intro key'
              show (items.deleteCachedItem _).getCachedItem _ = _
              rw [CachedItems.getCachedItem_deleteCachedItem, if_neg (hother key' key)]
              exact hitems key'

/-- The plugins whose id `own` tells keep to themselves what the others do not share a key with. -/
theorem noninterfering_of_keys {ι : Type} [DecidableEq ι] {cipher : Cipher} {storages : ι → PluginStorage} {i : ι}
    (hkeys : ∀ j, j ≠ i → ¬ ∃ key key', (storages i).scopedKey key = (storages j).scopedKey key') :
    (plugins cipher storages).Noninterfering fun j => j = i := by
  have hunwinding : Unwinding (plugins cipher storages) (fun j => decide (j = i)) (SameItems (storages i)) := by
    constructor
    · intro persister persister' j call hown h
      have hj : j = i := of_decide_eq_true hown
      subst hj
      exact step_own h
    · intro persister persister' j call hown h
      exact step_other (hkeys j (of_decide_eq_false hown)) h
  exact hunwinding.noninterfering (sameItems_refl (storages i))

/-- What a stored text is read as is never no item. -/
theorem getItem_of_cached {cipher : Cipher} {storage : PluginStorage} {items : CachedItems} {key value : String}
    (h : items.getCachedItem (storage.scopedKey key) = some value) :
    storage.getItem cipher key (some items) ≠ some (.ok none) := by
  unfold PluginStorage.getItem
  simp only [PluginStorage.getPersister]
  rw [h]
  show (storage.decrypt cipher value).map _ ≠ _
  cases storage.decrypt cipher value with
  | none =>
      intro hnone
      cases hnone
  | some result =>
      cases result with
      | error err =>
          intro herror
          cases herror
      | ok plain =>
          intro hok
          cases hok

/-- A key in common is enough: the other plugin removes the item. -/
theorem interfering_of_key {ι : Type} [DecidableEq ι] {cipher : Cipher} {storages : ι → PluginStorage} {i j : ι}
    (hne : j ≠ i) {key key' : String} (hkey : (storages i).scopedKey key = (storages j).scopedKey key') :
    ¬ (plugins cipher storages).Noninterfering fun j => j = i := by
  intro h
  let items : CachedItems := (∅ : CachedItems).updateCachedItem ((storages i).scopedKey key) ""
  have hcached : items.getCachedItem ((storages i).scopedKey key) = some "" := by
    rw [CachedItems.getCachedItem_updateCachedItem, if_pos rfl]
  have hremoved : (items.deleteCachedItem ((storages j).scopedKey key')).getCachedItem ((storages i).scopedKey key) =
      none := by
    rw [CachedItems.getCachedItem_deleteCachedItem, if_pos hkey.symm]
  have hsame := h (some items) [(j, .removeItem key'), (i, .getItem key)] [(i, .getItem key)] (by simp [hne])
  have hi : (fun j => decide (j = i)) i = true := decide_eq_true rfl
  have hj : (fun j => decide (j = i)) j = false := decide_eq_false hne
  generalize (fun j => decide (j = i)) = own at hsame hi hj
  rw [Machine.observed_other hj, Machine.observed_own hi, Machine.observed_own hi] at hsame
  have hread : (storages i).getItem cipher key (some (items.deleteCachedItem ((storages j).scopedKey key'))) =
      some (.ok none) := by
    unfold PluginStorage.getItem
    simp only [PluginStorage.getPersister]
    rw [hremoved]
  have hanswers := (List.cons.inj hsame).1
  exact getItem_of_cached hcached (hanswers.symm.trans hread)

/-- The two plugins as a family. -/
def twoPlugins (p q : PluginStorage) : Bool → PluginStorage := fun first => if first then p else q

/-- Each of the two plugins sees nothing of what the other does. -/
def Isolated (cipher : Cipher) (p q : PluginStorage) : Prop :=
  ∀ observer : Bool, (plugins cipher (twoPlugins p q)).Noninterfering fun caller => caller = observer

/-- For every cipher, any two plugins with different ids, all tables and all calls of both: what each of them reads
depends on its own calls only, exactly if no id begins with the other id and the separator. -/
theorem isolated_iff {cipher : Cipher} {p q : PluginStorage} (h : p.pluginId ≠ q.pluginId) :
    Isolated cipher p q ↔ ¬ Begins p.pluginId q.pluginId ∧ ¬ Begins q.pluginId p.pluginId := by
  rw [← not_or, ← exists_scopedKey_eq_iff h]
  constructor
  · rintro hisolated ⟨key, key', hkey⟩
    have hother : false ≠ true := by decide
    exact interfering_of_key hother hkey (hisolated true)
  · intro hkeys observer
    apply noninterfering_of_keys
    intro j hj hshared
    cases observer with
    | true =>
        cases j with
        | true => exact hj rfl
        | false => exact hkeys hshared
    | false =>
        cases j with
        | false => exact hj rfl
        | true =>
            obtain ⟨key, key', hkey⟩ := hshared
            exact hkeys ⟨key', key, hkey.symm⟩

/-- Hex digits, two for each byte. -/
def hexDigits (bytes : List UInt8) : List Char :=
  bytes.flatMap fun b => [Nat.digitChar (b.toNat / 16), Nat.digitChar (b.toNat % 16)]

def hexValue (c : Char) : Nat := if c.isDigit then c.toNat - 48 else c.toNat - 87

def hexBytes : List Char → List UInt8
  | a :: b :: rest => UInt8.ofNat (hexValue a * 16 + hexValue b) :: hexBytes rest
  | _ => []

/-- A cipher that knows its own key again. -/
def keyedCipher : Cipher where
  encrypt key _ data := .ok (key ++ data)
  decrypt key _ data :=
    if (data.extract 0 key.size).data = key.data then .ok (data.extract key.size data.size) else .error "aead::Error"
  hexEncode bytes := String.ofList (hexDigits bytes.data.toList)
  hexDecode text := .ok ⟨(hexBytes text.toList).toArray⟩

def zeroNonce : ByteArray := ⟨#[0, 0, 0, 0, 0, 0, 0, 0, 0, 0, 0, 0]⟩

def storageOf (pluginId : String) (key : UInt8) (h : pluginId ≠ "") : PluginStorage := ⟨pluginId, ⟨#[key]⟩, h⟩

/-- The separator is part of what begins a key. -/
theorem isolated_numbered :
    Isolated keyedCipher (storageOf "nwc" 1 (by decide)) (storageOf "nwc2" 2 (by decide)) :=
  (isolated_iff (by decide)).mpr ⟨by decide, by decide⟩

/-- What the plugin `a` sees next to the plugin `a-b`, from an empty table. -/
def nestedAnswers (calls : List (Bool × Call)) : List Answer :=
  (plugins keyedCipher (twoPlugins (storageOf "a" 1 (by decide)) (storageOf "a-b" 2 (by decide)))).observed
    (fun caller => caller = true) (some ∅) calls

/-- The plugin `a` with the key `b-c` and the plugin `a-b` with the key `c`: what the first stores is removed, or
replaced by what it cannot decrypt. -/
theorem not_isolated_nested :
    nestedAnswers [(true, .setItem "b-c" "v" zeroNonce), (true, .getItem "b-c")] =
        [some (.ok none), some (.ok (some "v"))] ∧
      nestedAnswers [(true, .setItem "b-c" "v" zeroNonce), (false, .removeItem "c"), (true, .getItem "b-c")] =
        [some (.ok none), some (.ok none)] ∧
      nestedAnswers
          [(true, .setItem "b-c" "v" zeroNonce), (false, .setItem "c" "w" zeroNonce), (true, .getItem "b-c")] =
        [some (.ok none), some (.error (.encryption "aead::Error"))] ∧
      ¬ Isolated keyedCipher (storageOf "a" 1 (by decide)) (storageOf "a-b" 2 (by decide)) := by
  have halone : nestedAnswers [(true, .setItem "b-c" "v" zeroNonce), (true, .getItem "b-c")] =
      [some (.ok none), some (.ok (some "v"))] := rfl
  have hremoved : nestedAnswers
      [(true, .setItem "b-c" "v" zeroNonce), (false, .removeItem "c"), (true, .getItem "b-c")] =
      [some (.ok none), some (.ok none)] := rfl
  refine ⟨halone, hremoved, rfl, ?_⟩
  intro hisolated
  have hsame : nestedAnswers
      [(true, .setItem "b-c" "v" zeroNonce), (false, .removeItem "c"), (true, .getItem "b-c")] =
      nestedAnswers [(true, .setItem "b-c" "v" zeroNonce), (true, .getItem "b-c")] :=
    hisolated true (some ∅) _ _ rfl
  rw [halone, hremoved] at hsame
  cases hsame

end BreezLiquid.Plugin
