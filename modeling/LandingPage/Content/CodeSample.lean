namespace LandingPage

inductive TokenKind where
  | comment | keyword | identifier | str | literal | punct
  deriving DecidableEq

structure Token where
  kind : TokenKind
  text : String
  deriving DecidableEq

structure CodeLine where
  gap : Bool
  indent : Bool
  tokens : List Token
  deriving DecidableEq

def codeSampleHeading : String := "// Simple integration"

def codeSample : List CodeLine :=
  [⟨false, false,
      [⟨.keyword, "import"⟩, ⟨.punct, " \x7b GardbaseClient \x7d "⟩, ⟨.keyword, "from"⟩,
        ⟨.punct, " "⟩, ⟨.str, "'@gardbase/client'"⟩]⟩,
    ⟨true, false,
      [⟨.keyword, "const"⟩, ⟨.punct, " "⟩, ⟨.identifier, "gardb"⟩, ⟨.punct, " = "⟩,
        ⟨.keyword, "new"⟩, ⟨.punct, " "⟩, ⟨.identifier, "GardbaseClient"⟩, ⟨.punct, "(\x7b"⟩]⟩,
    ⟨false, true,
      [⟨.identifier, "apiKey"⟩, ⟨.punct, ": "⟩, ⟨.str, "'your-api-key'"⟩, ⟨.punct, ","⟩]⟩,
    ⟨false, true,
      [⟨.identifier, "autoCompliance"⟩, ⟨.punct, ": "⟩, ⟨.literal, "true"⟩, ⟨.punct, " "⟩,
        ⟨.comment, "// Always on"⟩]⟩,
    ⟨false, false, [⟨.punct, "\x7d);"⟩]⟩,
    ⟨true, false, [⟨.comment, "// Data is encrypted client-side"⟩]⟩,
    ⟨false, false,
      [⟨.keyword, "await"⟩, ⟨.punct, " "⟩, ⟨.identifier, "gardb"⟩, ⟨.punct, "."⟩,
        ⟨.identifier, "users"⟩, ⟨.punct, "."⟩, ⟨.identifier, "create"⟩, ⟨.punct, "(\x7b "⟩,
        ⟨.identifier, "email"⟩, ⟨.punct, ", "⟩, ⟨.identifier, "name"⟩, ⟨.punct, " \x7d);"⟩]⟩]

end LandingPage
