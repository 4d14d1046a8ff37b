/-!
# A pool of text builders

SQL text is written into builders, growable texts that a pool hands out and takes back. The pool
keeps a bounded number of idle builders, emptied and none larger than a limit, and hands out the
one that came back last. Nobody waits for the pool: who finds it locked by another thread makes a
new builder, or drops the one to be returned. Its counters say how often a builder was reused, how
often one had to be made, how often one was dropped, and how often the pool was found locked.
-/

namespace TypedSql

/-- A growable text and the bytes it has room for. -/
structure Builder where
  text : String
  capacity : Nat
deriving DecidableEq, Repr

namespace Builder

/-- Appends text; room that does not suffice is doubled at least. -/
def push (b : Builder) (s : String) : Builder :=
  let size := b.text.utf8ByteSize + s.utf8ByteSize
  { text := b.text ++ s
    capacity :=
      if size ≤ b.capacity then b.capacity else max (2 * b.capacity) (max size 8) }

/-- Empties the builder and keeps its room. -/
def clear (b : Builder) : Builder := { b with text := "" }

end Builder

/-- A builder handed out by a pool. -/
structure Loan where
  builder : Builder
  /-- The builder was idle in the pool before. -/
  reused : Bool
deriving DecidableEq, Repr

/-- The limits of a pool. -/
structure PoolConfig where
  /-- The most idle builders kept. -/
  capacity : Nat := 8
  /-- The room of a new builder in bytes. -/
  initialBytes : Nat := 256
  /-- Builders with more room are not kept. -/
  maxRetainedBytes : Nat := 16384
deriving DecidableEq, Repr

/-- A pool with its idle builders, the last one returned first. -/
structure Pool where
  config : PoolConfig
  idle : List Builder := []
  /-- Builders handed out again. -/
  hits : Nat := 0
  /-- Builders made because none was idle. -/
  misses : Nat := 0
  /-- Builders made, and builders dropped, because the pool was locked. -/
  contended : Nat := 0
  /-- Builders dropped because they were too large or the pool was full. -/
  dropped : Nat := 0
deriving DecidableEq, Repr

namespace Pool

def new (config : PoolConfig) : Pool := { config }

/-- Takes an idle builder out of the pool, or makes one. -/
def acquire (p : Pool) : Loan × Pool :=
  match p.idle with
  | b :: rest => (⟨b, true⟩, { p with idle := rest, hits := p.hits + 1 })
  | [] => (⟨⟨"", p.config.initialBytes⟩, false⟩, { p with misses := p.misses + 1 })

/-- Makes a builder without looking at the idle ones. -/
def acquireLocked (p : Pool) : Loan × Pool :=
  (⟨⟨"", p.config.initialBytes⟩, false⟩, { p with contended := p.contended + 1 })

/-- Takes a builder back, or drops it if it has grown too large or the pool is full. -/
def release (p : Pool) (b : Builder) : Pool :=
  if p.config.maxRetainedBytes < b.capacity then { p with dropped := p.dropped + 1 }
  else if p.idle.length < p.config.capacity then { p with idle := b.clear :: p.idle }
  else { p with dropped := p.dropped + 1 }

/-- Drops a builder that comes back while the pool is locked. -/
def releaseLocked (p : Pool) (b : Builder) : Pool :=
  if p.config.maxRetainedBytes < b.capacity then { p with dropped := p.dropped + 1 }
  else { p with contended := p.contended + 1 }

end Pool
end TypedSql
