import DocSearch.Query.Error

/-!
# Errors

Everything that can go wrong in a search, by cause. The texts are those shown to the user.
-/

namespace DocSearch

/-- Why reading or writing files failed. -/
inductive FileError where
  /-- There is no such file or directory. -/
  | notFound
  /-- A directory could not be made because a file of its name exists. -/
  | alreadyExists
  /-- A path leads through a file as if it were a directory. -/
  | notADirectory
  /-- A directory was opened like a file. -/
  | isADirectory
  /-- Text was expected and the bytes are not UTF-8. -/
  | notText
  /-- There is no index yet and nothing to build one from. -/
  | noInput
  /-- Another cause, with its description. -/
  | other (description : String)
deriving DecidableEq, Repr

/-- The description of a file error. -/
def FileError.message : FileError → String
  | .notFound => "No such file or directory (os error 2)"
  | .alreadyExists => "File exists (os error 17)"
  | .notADirectory => "Not a directory (os error 20)"
  | .isADirectory => "Is a directory (os error 21)"
  | .notText => "stream did not contain valid UTF-8"
  | .noInput => "no index found and no --input to build one from"
  | .other description => description

/-- Why an operation failed. -/
inductive Error where
  /-- The query is rejected; it can be corrected and tried again. -/
  | invalidQuery (cause : Query.QueryError)
  /-- Two documents have the same id. -/
  | duplicateDocument (id : UInt32)
  /-- No ranking model has the name. -/
  | unknownModel (name : String)
  /-- A file could not be read or written. -/
  | io (cause : FileError)
  /-- Stored bytes do not have the expected layout. -/
  | encoding
  /-- A JSON text does not have the expected form. -/
  | json
  /-- The ratings database could not be opened or used. -/
  | storage
deriving DecidableEq, Repr

/-- The message of an error. -/
def Error.message : Error → String
  | .invalidQuery e => "invalid query: " ++ e.message
  | .duplicateDocument id => "duplicate document id: " ++ toString id.toNat
  | .unknownModel name => "unknown ranking model: " ++ name
  | .io e => "I/O error: " ++ e.message
  | .encoding => "encoding error"
  | .json => "JSON error"
  | .storage => "storage error"

end DocSearch
