import HealthWatch.Http.RequestHead
import HealthWatch.Net.Ip

/-!
# Reading over the body of a request

Nobody looks at the body of a request, but before the next request on the
connection can be read it must be passed.  It is read in pieces: all that is there
of a body of a known length, or one chunk.  Only a few pieces are read; what is
longer, not all there, or no body at all ends the connection.

A chunk is the number of its bytes in hexadecimal, perhaps with extensions, on a
line of its own, and then its bytes and a line end.  The last one has no bytes, and
is followed by lines that may say anything, up to an empty one.
-/

namespace HealthWatch.Http

open HealthWatch.Net

/-- What is expected next in a body of chunks. -/
inductive ChunkState where
  /-- The first digit of a size. -/
  | start
  /-- The rest of a size. -/
  | size (n : Nat)
  /-- Blanks behind a size. -/
  | sizeBlanks (n : Nat)
  | extension (n : Nat)
  /-- The line feed behind a size. -/
  | sizeEnd (n : Nat)
  /-- So many bytes. -/
  | bytes (left : Nat)
  /-- The carriage return and the line feed behind the bytes. -/
  | bytesReturn
  | bytesFeed
  /-- A line after the last chunk, or the carriage return of the empty one. -/
  | line
  /-- The rest of such a line, and its line feed. -/
  | trailer
  | trailerFeed
  /-- The line feed of the empty line. -/
  | lastFeed
  | finished
deriving DecidableEq

/-- What follows a character of the line of a size. -/
def ChunkState.afterSize? (n : Nat) (c : Char) : Option ChunkState :=
  if isInlineBlank c then some (.sizeBlanks n)
  else if c = ';' then some (.extension n)
  else if c = '\r' then some (.sizeEnd n)
  else none

/-- What follows a character that stands alone: not one of the bytes of a chunk. -/
def ChunkState.next? (s : ChunkState) (c : Char) : Option ChunkState :=
  match s with
  | .start => (hexDigit? c).map .size
  | .size n =>
    match hexDigit? c with
    | some d => if 16 * n + d < Nat.pow 2 64 then some (.size (16 * n + d)) else none
    | none => afterSize? n c
  | .sizeBlanks n => afterSize? n c
  | .extension n =>
    if c = '\r' then some (.sizeEnd n) else if c = '\n' then none else some (.extension n)
  | .sizeEnd n => if c ≠ '\n' then none else if n = 0 then some .line else some (.bytes n)
  | .bytesReturn => if c = '\r' then some .bytesFeed else none
  | .bytesFeed => if c = '\n' then some .start else none
  | .line => some (if c = '\r' then .lastFeed else .trailer)
  | .trailer => some (if c = '\r' then .trailerFeed else .trailer)
  | .trailerFeed => if c = '\n' then some .line else none
  | .lastFeed => if c = '\n' then some .finished else none
  | .bytes _ | .finished => none

/-- What is expected after `count` of the bytes of a chunk. -/
def ChunkState.afterBytes (left count : Nat) : ChunkState :=
  if count < left then .bytes (left - count) else .bytesReturn

/-- Reads up to the next bytes, and those of them that are there, or up to the
end. -/
def ChunkState.read? : ChunkState → List Char → Option (ChunkState × List Char)
  | _, [] => none
  | .bytes left, c :: cs => some (afterBytes left (c :: cs).length, (c :: cs).drop left)
  | s, c :: cs =>
    match s.next? c with
    | none => none
    | some .finished => some (.finished, cs)
    | some s => s.read? cs

/-- What is left of a body. -/
inductive BodyState where
  | length (left : Nat)
  | chunks (s : ChunkState)
deriving DecidableEq

/-- The body that follows a head. -/
def Framing.body : Framing → BodyState
  | .length n => .length n
  | .chunked => .chunks .start

/-- Whether nothing is left of a body. -/
def BodyState.isFinished (b : BodyState) : Bool := b = .length 0 || b = .chunks .finished

/-- Reads a piece of a body, if there is one. -/
def BodyState.read? (b : BodyState) (cs : List Char) : Option (BodyState × List Char) :=
  match b with
  | .length n => if cs.isEmpty then none else some (.length (n - cs.length), cs.drop n)
  | .chunks s => (s.read? cs).map fun (s, rest) => (.chunks s, rest)

/-- What follows a body, if it ends after at most `pieces` pieces. -/
def BodyState.skip? : (pieces : Nat) → BodyState → List Char → Option (List Char)
  | 0, b, cs => if b.isFinished then some cs else none
  | pieces + 1, b, cs =>
    if b.isFinished then some cs
    else
      match b.read? cs with
      | none => none
      | some (b, rest) => b.skip? pieces rest

end HealthWatch.Http
