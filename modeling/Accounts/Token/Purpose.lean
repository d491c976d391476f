import Accounts.Json.Value

/-!
# What a token is for

Every token has one purpose, is signed with the key of that purpose and is accepted for no other.
-/

namespace Accounts.Token

/-- The use that a token may be put to. -/
inductive Purpose where
  /-- Presented with calls; lives short. -/
  | access
  /-- Exchanged for new access tokens; lives long. -/
  | refresh
  /-- A place in a listing. -/
  | cursor
deriving DecidableEq, Repr

namespace Purpose

def name : Purpose → String
  | access => "access"
  | refresh => "refresh"
  | cursor => "cursor"

def byName : List (String × Purpose) :=
  [("access", access), ("refresh", refresh), ("cursor", cursor)]

def reader : Json.Reader Purpose := Json.Reader.variant byName

def ofJson (v : Json) : Except Json.FormFault Purpose := v.asVariant byName

end Purpose

end Accounts.Token
