/-
  SqlPipeline/Console/Emoji.lean
  ==============================
  **Names of pictures in texts.**

  A name between two colons, without white space, stands for a picture where the console has
  one of that name.  A name that it does not have stays as it is, with its colons, and the
  second of them begins no other name.
-/
import SqlPipeline.Text.CharSet
import SqlPipeline.Text.Case

namespace SqlPipeline.Console.Emoji

open Text

/-- The pictures of a console, by their names in small letters. -/
abbrev Table := String → Option String

/-- What stands before the next colon, if there is no white space in it. -/
def between? : List Char → Option (List Char)
  | [] => none
  | c :: cs =>
      if c == ':' then some []
      else if isBlank c then none
      else (between? cs).map (c :: ·)

/-- The endings of names that choose a form of a picture, and the signs for these forms. -/
def forms : List (List Char × Char) :=
  [("-emoji".toList, '\uFE0F'), ("-text".toList, '\uFE0E')]

def picture? (table : Table) (written : List Char) : Option (List Char) :=
  match forms.find? fun (ending, _) => ending.isSuffixOf written with
  | some (ending, sign) =>
      let name := written.take (written.length - ending.length)
      (table (.ofList (lower name))).map (·.toList ++ [sign])
  | none => (table (.ofList (lower written))).map String.toList

/-- Puts pictures in the place of their names; the first `skip` characters belong to a name that
    has been read. -/
def replace (table : Table) (skip : Nat) : List Char → List Char
  | [] => []
  | c :: cs =>
      if skip > 0 then replace table (skip - 1) cs
      else if c == ':' then
        match between? cs with
        | some written =>
            (picture? table written).getD (':' :: (written ++ [':']))
              ++ replace table (written.length + 1) cs
        | none => c :: replace table 0 cs
      else c :: replace table 0 cs

end SqlPipeline.Console.Emoji
