import GDriver.Api.Client
import GDriver.Library.Text
import Mathlib.Data.List.TakeWhile

namespace GDriver
namespace Api

open Library

/-!
# Chunks of a resumable upload

A chunk is sent with its place in the file, and the server answers with what it has of the
file: 308 with the range of the bytes it keeps, or the file when it has all of it.  The
same is answered to a query.
-/

/-- A response of the upload endpoint: its status, its `Range` header, and the body as it
is deserialised and as text. -/
structure PutResponse where
  status : Nat
  range : Option String
  file : Except String DriveFile
  text : String

inductive UploadChunkResult where
  | incomplete (received : Nat)
  | complete (file : DriveFile)

/-- The number of received bytes from a `Range` header such as `bytes=0-524287`.  The number
that is read has 64 bits: a server that names a byte of the file stays below. -/
def parseRangeHeader (header : Option String) : Option Nat := do
  let range ← header
  let range ← if startsWith range "bytes=" then some (range.toList.drop 6) else none
  let tail ← if range.contains '-' then some ((range.dropWhile (· ≠ '-')).tail) else none
  let last ← parseUnsigned (tail.takeWhile (· ≠ '-'))
  pure (last + 1)

/-- What is made of the response to a chunk that ends at `rangeEnd`.  A 308 without a
readable range counts as all of the chunk. -/
def filesUploadResumableChunk (rangeEnd : Nat) (put : Except String PutResponse) : Except String UploadChunkResult :=
  match put with
  | .error failure => .error failure
  | .ok response =>
      if response.status = 200 ∨ response.status = 201 then
        match response.file with
        | .ok file => .ok (.complete file)
        | .error failure => .error ("failed to deserialise completed upload response: " ++ failure)
      else if response.status = 308 then
        .ok (.incomplete ((parseRangeHeader response.range).getD (rangeEnd + 1)))
      else
        .error ("unexpected status " ++ toString response.status ++ " on resumable upload chunk PUT: " ++
          String.ofList (response.text.toList.take 500))

/-- What is made of the response to a query: the received bytes, and whether the upload is
complete.  A 308 without a readable range counts as nothing. -/
def filesUploadResumableQuery (total : Nat) (put : Except String PutResponse) : Except String (Nat × Bool) :=
  match put with
  | .error failure => .error failure
  | .ok response =>
      if response.status = 200 ∨ response.status = 201 then .ok (total, true)
      else if response.status = 308 then .ok ((parseRangeHeader response.range).getD 0, false)
      else
        .error ("unexpected status " ++ toString response.status ++ " on upload query: " ++
          String.ofList (response.text.toList.take 500))

/-! ## The server -/

/-- What the server has of a file. -/
structure UploadSession where
  total : Nat
  kept : List UInt8
  deriving DecidableEq

/-- The server keeps some of the bytes of a chunk that go on where it stands. -/
def UploadSession.receive (session : UploadSession) (start : Nat) (chunk : List UInt8) (keeps : Nat) : UploadSession :=
  if start ≤ session.kept.length then
    { session with kept := session.kept ++ (chunk.drop (session.kept.length - start)).take keeps }
  else session

/-- The server has all of the file. -/
def UploadSession.isComplete (session : UploadSession) : Bool :=
  session.kept.length = session.total

/-- The header for the bytes that are kept. -/
def rangeHeader (kept : List UInt8) : Option String :=
  if kept = [] then none else some ("bytes=0-" ++ toString (kept.length - 1))

/-- The answer to a chunk or a query. -/
def UploadSession.reply (file : DriveFile) (session : UploadSession) : PutResponse :=
  if session.isComplete then ⟨200, none, .ok file, ""⟩
  else ⟨308, rangeHeader session.kept, .error "no body", ""⟩

/-- What is read from the header is the number of kept bytes. -/
theorem parseRangeHeader_rangeHeader (kept : List UInt8) :
    parseRangeHeader (rangeHeader kept) = if kept = [] then none else some kept.length := by
  rw [rangeHeader]
  split
  · rfl
  · next some_ =>
      have positive : 0 < kept.length := List.length_pos_iff.mpr some_
      have written : ("bytes=0-" ++ toString (kept.length - 1)).toList =
          "bytes=0-".toList ++ Nat.toDigits 10 (kept.length - 1) := by
        rw [String.toList_append, Nat.toString_eq_ofList_toDigits]
        exact congrArg ("bytes=0-".toList ++ ·) String.toList_ofList
      have digits : ∀ char ∈ Nat.toDigits 10 (kept.length - 1), (decide (char ≠ '-')) = true := by
        intro char member
        have digit := Nat.isDigit_of_mem_toDigits (by decide) (by decide) member
        refine decide_eq_true ?_
        intro same
        rw [same] at digit
        exact absurd digit (by decide)
      have starts : startsWith ("bytes=0-" ++ toString (kept.length - 1)) "bytes=" = true := by
        rw [startsWith, written]
        rfl
      have rest : ("bytes=0-" ++ toString (kept.length - 1)).toList.drop 6 =
          '0' :: '-' :: Nat.toDigits 10 (kept.length - 1) := by
        rw [written]
        rfl
      have read : (Nat.toDigits 10 (kept.length - 1)).takeWhile (· ≠ '-') = Nat.toDigits 10 (kept.length - 1) :=
        List.takeWhile_eq_self_iff.mpr digits
      have counted : kept.length - 1 + 1 = kept.length := by omega
      rw [parseRangeHeader]
      simp only [Option.bind_eq_bind, Option.bind_some, starts, if_true, rest, Option.pure_def]
      have tail : (('0' :: '-' :: Nat.toDigits 10 (kept.length - 1)).dropWhile (· ≠ '-')).tail =
          Nat.toDigits 10 (kept.length - 1) := rfl
      have contains : ('0' :: '-' :: Nat.toDigits 10 (kept.length - 1)).contains '-' = true := rfl
      rw [tail, contains, if_pos rfl, read, parseUnsigned_toDigits]
      exact congrArg some counted

end Api
end GDriver
