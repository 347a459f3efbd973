namespace Authorship

/-- Raw identities with their canonical names, the latest registration first. -/
structure Aliases where
  entries : List (String × String)
deriving Repr, DecidableEq

namespace Aliases

def empty : Aliases := ⟨[]⟩

def canonical? (aliases : Aliases) (raw : String) : Option String :=
  aliases.entries.lookup raw

/-- The name that an identity stands for. One step is taken, a canonical name is not looked up. -/
def resolve (aliases : Aliases) (raw : String) : String :=
  (aliases.canonical? raw).getD raw

def set (aliases : Aliases) (raw canonical : String) : Aliases :=
  ⟨(raw, canonical) :: aliases.entries.filter (·.1 != raw)⟩

def register (aliases : Aliases) (canonical : String) (raws : List String) : Aliases :=
  raws.foldl (fun aliases raw => aliases.set raw canonical) aliases

end Aliases

end Authorship
