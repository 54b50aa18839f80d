/-
This file models the caches of the package as their callers see them. A cache is
its operations on a world, any of which may fail; the tiered cache is made of two
others. It reads the first tier and on a miss or a failure the second, from which
it fills the first; it writes and deletes in both; a revocation deletes in both
and is published on a bus.
-/

import Mathlib.Data.Int.Basic

namespace SharedGo.Authz

/-! ### Caches -/

/-- A duration, in nanoseconds. -/
abbrev Duration := Int

def seconds (count : Int) : Duration := count * 1000000000

/-- The errors of a cache; those of its backend are known by their texts. -/
inductive CacheError where
  | cacheMiss
  | invalidKey
  | backend (message : String)
  deriving DecidableEq, Repr

/-- The operations of a cache. What they store is in the world. -/
structure CacheProvider (World : Type) where
  get : String → World → Except CacheError String × World
  set : String → String → Duration → World → Option CacheError × World
  delete : String → World → Option CacheError × World

/-- Publishes revocations. -/
structure InvalidationBus (World : Type) where
  publishRevocation : String → World → Option CacheError × World

/-! ### Two tiers -/

section Tiers

variable {World : Type}

/-- What a tiered cache is made from. A second tier may also be a bus. -/
structure TieredCacheConfig (World : Type) where
  l1 : Option (CacheProvider World)
  l2 : Option (CacheProvider World × Option (InvalidationBus World))
  invalidationBus : Option (InvalidationBus World)
  l1TTL : Duration
  keyFormatter : Option (String → String)

/-- A tiered cache. Entries stay in its first tier for a positive time. -/
structure TieredCacheProvider (World : Type) where
  l1 : CacheProvider World
  l2 : CacheProvider World
  bus : Option (InvalidationBus World)
  l1TTL : Duration
  keyFormatter : String → String
  l1TTL_pos : 0 < l1TTL

def defaultL1TTL : Duration := seconds 60

def newTieredCacheProvider (config : TieredCacheConfig World) :
    Except String (TieredCacheProvider World) :=
  match config.l1, config.l2 with
  | none, _ => .error "cache: L1 cache provider cannot be nil"
  | some _, none => .error "cache: L2 cache provider cannot be nil"
  | some l1, some (l2, l2Bus) =>
    .ok {
      l1
      l2
      bus := config.invalidationBus <|> l2Bus
      l1TTL := if config.l1TTL ≤ 0 then defaultL1TTL else config.l1TTL
      keyFormatter := config.keyFormatter.getD fun principalID => "perm:" ++ principalID
      l1TTL_pos := by
        split
        · decide
        · rename_i positive
          exact Int.not_le.mp positive }

namespace TieredCacheProvider

variable (provider : TieredCacheProvider World)

/-- The failure of a fill is ignored. -/
def get (key : String) (world : World) : Except CacheError String × World :=
  match provider.l1.get key world with
  | (.ok value, world) => (.ok value, world)
  | (.error _, world) =>
    match provider.l2.get key world with
    | (.error error, world) => (.error error, world)
    | (.ok value, world) => (.ok value, (provider.l1.set key value provider.l1TTL world).2)

/-- The first tier keeps a value no longer than the second. -/
def set (key value : String) (ttl : Duration) (world : World) : Option CacheError × World :=
  let l1TTL := if 0 < ttl ∧ ttl < provider.l1TTL then ttl else provider.l1TTL
  provider.l2.set key value ttl (provider.l1.set key value l1TTL world).2

def delete (key : String) (world : World) : Option CacheError × World :=
  provider.l2.delete key (provider.l1.delete key world).2

/-- The failures of the deletions are ignored. -/
def publishRevocation (principalID : String) (world : World) : Option CacheError × World :=
  let targetKey := provider.keyFormatter principalID
  let deleted := (provider.l2.delete targetKey (provider.l1.delete targetKey world).2).2
  match provider.bus with
  | none => (none, deleted)
  | some bus => bus.publishRevocation principalID deleted

/-- What the listener does with a revocation it receives. -/
def handleRevocation (principalID : String) (world : World) : World :=
  (provider.l1.delete (provider.keyFormatter principalID) world).2

end TieredCacheProvider

end Tiers

end SharedGo.Authz
