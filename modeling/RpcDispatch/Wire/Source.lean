/-
This file defines byte sources: what a connection delivers when it is read, piece by piece.
-/

import RpcDispatch.Bytes

namespace RpcDispatch.Wire

/-- What one or more reads of a connection give. -/
inductive Delivery where
  | bytes (bytes : Bytes)
  /-- A read that has to be tried again. -/
  | interrupted
  /-- A read of no bytes, which means the end. -/
  | ended
  | failed (message : String)
  deriving DecidableEq

/-- How many bytes a delivery brings. -/
def Delivery.size : Delivery → Nat
  | .bytes brought => brought.length
  | _ => 0

/-- A source has bytes at hand and deliveries to come.  After the last one it has ended. -/
structure Source where
  current : Bytes
  later : List Delivery
  deriving DecidableEq

namespace Source

/-- The source that delivers the given bytes and ends. -/
def ofBytes (bytes : Bytes) : Source :=
  ⟨bytes, []⟩

/-- The source of a list of deliveries. -/
def ofDeliveries (deliveries : List Delivery) : Source :=
  ⟨[], deliveries⟩

/-- How many bytes may still come. -/
def size (source : Source) : Nat :=
  source.later.foldl (fun total delivery => total + delivery.size) source.current.length

/-- Why a source gave fewer bytes than asked for. -/
inductive Shortage where
  | ended
  | failed (message : String)
  deriving DecidableEq

/-- Goes on with the deliveries until `count` bytes have been taken. -/
def takeLater : (later : List Delivery) → (count : Nat) → (current : Bytes) →
    Except Shortage Bytes × Source
  | later, 0, current => (.ok [], ⟨current, later⟩)
  | [], count + 1, current =>
    if count < current.length then (.ok (current.take (count + 1)), ⟨current.drop (count + 1), []⟩)
    else (.error .ended, ⟨[], []⟩)
  | delivery :: later, count + 1, current =>
    if count < current.length then
      (.ok (current.take (count + 1)), ⟨current.drop (count + 1), delivery :: later⟩)
    else
      match delivery with
      | .bytes bytes =>
        match takeLater later (count + 1 - current.length) bytes with
        | (.ok taken, source) => (.ok (current ++ taken), source)
        | (.error shortage, source) => (.error shortage, source)
      | .interrupted =>
        match takeLater later (count + 1 - current.length) [] with
        | (.ok taken, source) => (.ok (current ++ taken), source)
        | (.error shortage, source) => (.error shortage, source)
      | .ended => (.error .ended, ⟨[], later⟩)
      | .failed message => (.error (.failed message), ⟨[], later⟩)

/-- Takes exactly the given number of bytes. -/
def take (source : Source) (count : Nat) : Except Shortage Bytes × Source :=
  takeLater source.later count source.current

end Source

end RpcDispatch.Wire
