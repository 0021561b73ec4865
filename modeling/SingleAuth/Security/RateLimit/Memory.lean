import SingleAuth.Lib.Dict
import SingleAuth.Security.RateLimit.Decision

open dict

namespace singleauth.ratelimit

/-- An element of the list of keys in the order of their creation. Elements are told apart by their
handles. -/
structure Element where
  handle : Nat
  key : String
  deriving DecidableEq

structure MemoryEntry where
  record : Record
  expiresAt : Int
  /-- The handle of the element for the key. -/
  order : Nat
  deriving DecidableEq

structure MemoryStore where
  entries : Dict MemoryEntry
  order : List Element
  nextHandle : Nat
  maxEntries : Int

def defaultMemoryMaxEntries : Int := 100000

def newMemoryStore (maxEntries : Int) : MemoryStore :=
  { entries := Dict.empty, order := [], nextHandle := 0
    maxEntries := if maxEntries ≤ 0 then defaultMemoryMaxEntries else maxEntries }

/-- Write the entry of a key, which keeps its place in the order if it has one. -/
def MemoryStore.set (store : MemoryStore) (key : String) (record : Record) (expiresAt : Int) : MemoryStore :=
  match store.entries.get? key with
  | some existing => { store with entries := store.entries.set key { existing with record, expiresAt } }
  | none =>
    { store with
      entries := store.entries.set key { record, expiresAt, order := store.nextHandle }
      order := store.order ++ [{ handle := store.nextHandle, key }]
      nextHandle := store.nextHandle + 1 }

variable {key : String} {store : MemoryStore}

def MemoryStore.remove (store : MemoryStore) (entry : MemoryEntry) : MemoryStore :=
  { store with
    entries := store.entries.erase entry.record.key
    order := store.order.filter fun element => element.handle ≠ entry.order }

def MemoryStore.expire (now : Int) (store : MemoryStore) (element : Element) : MemoryStore :=
  match store.entries.get? element.key with
  | some entry => if entry.expiresAt ≤ now then store.remove entry else store
  | none => store

/-- Remove the oldest entries. Each round takes away an entry or an element. -/
def MemoryStore.evict : Nat → Int → MemoryStore → MemoryStore
  | 0, _, store => store
  | rounds + 1, overflow, store =>
    if overflow ≤ 0 then store
    else
      match store.order with
      | [] => store
      | front :: rest =>
        match store.entries.get? front.key with
        | none => MemoryStore.evict rounds overflow { store with order := rest }
        | some entry => MemoryStore.evict rounds (overflow - 1) (store.remove entry)

def MemoryStore.prune (store : MemoryStore) (now : Int) : MemoryStore :=
  let live := store.order.foldl (MemoryStore.expire now) store
  live.evict (live.entries.entries.length + live.order.length) (live.entries.entries.length - live.maxEntries)

def MemoryStore.consume (store : MemoryStore) (key : String) (rule : Rule) (now : Int) : ConsumeResult × MemoryStore :=
  let pruned := store.prune now
  let current := ((pruned.entries.get? key).filter fun entry => decide (now < entry.expiresAt)).map MemoryEntry.record
  let decision := decideConsume current rule now
  ({ allowed := decision.allowed, retryAfter := decision.retryAfter },
    if decision.allowed then
      pruned.set key { decision.next with key } (int64.wrap (now + secondsToMillis rule.window))
    else pruned)

def MemoryStore.consumeAll (key : String) (rule : Rule) : MemoryStore → List Int → List Bool
  | _, [] => []
  | store, now :: rest =>
    (store.consume key rule now).1.allowed :: MemoryStore.consumeAll key rule (store.consume key rule now).2 rest

end singleauth.ratelimit
