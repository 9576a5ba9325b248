import Runbook.Checksum.Digest

/-!
# Digests in use

A digest takes in labelled values and files, call by call, and can be asked for its value between
any two calls. A file is read through a buffer until a read delivers nothing. How much each read
delivers is up to the operating system, which can also refuse to open a file, or let a read fail.
`Session.Step` lists everything that can happen.
-/

namespace Runbook.Checksum

/-- What there is at a path: nothing that can be opened, a file of which some read fails, or a file
that can be read to its end. -/
inductive StoredFile where
  | refused (fault : OsError)
  | failing (content : List UInt8) (fault : OsError)
  | readable (content : List UInt8)
  deriving Repr, DecidableEq

/-- The content that reads can deliver. -/
def StoredFile.content? : StoredFile → Option (List UInt8)
  | .refused _ => none
  | .failing content _ => some content
  | .readable content => some content

/-- A call of a digest. -/
inductive Call where
  | contribute (contribution : Contribution)
  /-- Asks for the value. -/
  | finish
  deriving Repr, DecidableEq

/-- What a call comes back with. -/
inductive Answer where
  | added
  | failed (fault : FileFault)
  | value (digest : String)
  deriving Repr, DecidableEq

/-- The most octets that one read delivers. -/
def readLimit : Nat := 8192

/-- Where a session stands. -/
inductive Point where
  /-- Between two calls. -/
  | between
  /-- In the loop that reads a file, with what reads have not delivered yet, the digest of the file
  so far, and the buffer that reads write to. -/
  | reading (path : String) (rest : List UInt8) (digest : Sink) (buffer : List UInt8)
  deriving Repr, DecidableEq

/-- A digest in use: the calls that have not come back yet, what the digest has taken in, and the
answers so far. -/
structure Session where
  calls : List Call
  sink : Sink := .empty
  answers : List Answer := []
  point : Point := .between
  deriving Repr, DecidableEq

/-- The digest after an entry, which it takes in part by part. -/
def writeEntry (sink : Sink) (entry : Entry) : Sink :=
  let text := Text.Utf8.encode entry.text
  (((sink.push (Text.Utf8.encode (toString text.length))).push [0x3A]).push text).push [0x0A]

/-- The buffer after a read: what was delivered stands in front of what was there before. -/
def fill (buffer piece : List UInt8) : List UInt8 :=
  piece ++ buffer.drop piece.length

namespace Session

/-- The session after the call in front has come back. -/
def answer (session : Session) (answer : Answer) : Session :=
  { session with
    calls := session.calls.tail
    answers := session.answers ++ [answer]
    point := .between }

/-- The session after the call in front has added an entry. -/
def add (session : Session) (entry : Entry) : Session :=
  { session.answer .added with sink := writeEntry session.sink entry }

/-- Everything that can happen in a session, given what there is at each path. -/
inductive Step (files : String → StoredFile) : Session → Session → Prop
  /-- A labelled value is taken in. -/
  | entry (session : Session) (entry : Entry) (rest : List Call)
      (hcalls : session.calls = .contribute (.entry entry) :: rest)
      (hpoint : session.point = .between) : Step files session (session.add entry)
  /-- The value is given. -/
  | finish (session : Session) (rest : List Call) (hcalls : session.calls = .finish :: rest)
      (hpoint : session.point = .between) :
      Step files session (session.answer (.value session.sink.digest))
  /-- A file cannot be opened. -/
  | refuse (session : Session) (path : String) (rest : List Call) (fault : OsError)
      (hcalls : session.calls = .contribute (.file path) :: rest)
      (hpoint : session.point = .between) (hfile : files path = .refused fault) :
      Step files session (session.answer (.failed (.opening path fault)))
  /-- A file is opened, with a new digest and an empty buffer. -/
  | opened (session : Session) (path : String) (rest : List Call) (content : List UInt8)
      (hcalls : session.calls = .contribute (.file path) :: rest)
      (hpoint : session.point = .between) (hfile : (files path).content? = some content) :
      Step files session
        { session with point := .reading path content .empty (List.replicate readLimit 0) }
  /-- A read delivers some octets, and the digest of the file takes them in from the buffer. -/
  | read (session : Session) (path : String) (piece rest : List UInt8) (digest : Sink)
      (buffer : List UInt8) (hpoint : session.point = .reading path (piece ++ rest) digest buffer)
      (hpiece : piece ≠ []) (hlimit : piece.length ≤ readLimit) :
      Step files session
        { session with
          point := .reading path rest (digest.push ((fill buffer piece).take piece.length))
            (fill buffer piece) }
  /-- A read fails. -/
  | fail (session : Session) (path : String) (content rest : List UInt8) (digest : Sink)
      (buffer : List UInt8) (fault : OsError)
      (hpoint : session.point = .reading path rest digest buffer)
      (hfile : files path = .failing content fault) :
      Step files session (session.answer (.failed (.reading path fault)))
  /-- A read meets the end of the file, whose digest is taken in. -/
  | endOfFile (session : Session) (path : String) (content : List UInt8) (digest : Sink)
      (buffer : List UInt8) (hpoint : session.point = .reading path [] digest buffer)
      (hfile : files path = .readable content) :
      Step files session (session.add (fileEntry digest.digest))

/-- The states that a new digest can get into with a sequence of calls. -/
inductive Reached (files : String → StoredFile) (calls : List Call) : Session → Prop
  | start : Reached files calls { calls := calls }
  | step {session next : Session} (h : Reached files calls session)
      (hstep : Step files session next) : Reached files calls next

end Session

/-- A file is read in this way: it is refused, or its content comes in pieces up to the end or to a
read that fails. -/
inductive StoredFile.Delivers : StoredFile → FileReading → Prop
  | refused (fault : OsError) : Delivers (.refused fault) (.refused fault)
  | failing (pieces : List (List UInt8)) (rest : List UInt8) (fault : OsError)
      (hpieces : ∀ piece ∈ pieces, piece ≠ [] ∧ piece.length ≤ readLimit) :
      Delivers (.failing (pieces.flatten ++ rest) fault) (.opened pieces (some fault))
  | readable (pieces : List (List UInt8))
      (hpieces : ∀ piece ∈ pieces, piece ≠ [] ∧ piece.length ≤ readLimit) :
      Delivers (.readable pieces.flatten) (.opened pieces none)

end Runbook.Checksum
