namespace LandingPage

inductive Route where
  | home | notFound
  deriving DecidableEq

def dropTrailingSlash : List Char → List Char
  | [] => []
  | ['/'] => []
  | c :: rest => c :: dropTrailingSlash rest

def dropLeadingSlash : List Char → List Char
  | '/' :: rest => rest
  | path => path

namespace Route

def all : List Route := [home, notFound]

def path : Route → String
  | home => "/"
  | notFound => "/404"

def fallback : Route := notFound

def ofPath (path : String) : Route :=
  if (dropLeadingSlash (dropTrailingSlash path.toList)).isEmpty then home else fallback

private theorem dropTrailingSlash_eq_nil_iff {path : List Char} :
    dropTrailingSlash path = [] ↔ path = [] ∨ path = ['/'] := by
  unfold dropTrailingSlash
  split <;> simp_all

private theorem ofPath_eq_home_iff_isEmpty {path : String} :
    ofPath path = home ↔ dropLeadingSlash (dropTrailingSlash path.toList) = [] := by
  unfold ofPath fallback
  split <;> simp_all

/-- Only no slash, one slash and two slashes lead home. -/
theorem ofPath_eq_home_iff {path : String} :
    ofPath path = home ↔ path = "" ∨ path = "/" ∨ path = "//" := by
  rw [ofPath_eq_home_iff_isEmpty, ← String.toList_inj, ← String.toList_inj, ← String.toList_inj]
  change _ ↔ _ = [] ∨ _ = ['/'] ∨ _ = ['/', '/']
  match path.toList with
  | [] => simp [dropTrailingSlash, dropLeadingSlash]
  | [c] =>
    by_cases hc : c = '/' <;> simp [hc, dropTrailingSlash, dropLeadingSlash]
  | c :: d :: rest =>
    have hd : dropTrailingSlash (c :: d :: rest) = c :: dropTrailingSlash (d :: rest) := by
      simp [dropTrailingSlash]
    rw [hd]
    by_cases hc : c = '/' <;> simp [hc, dropLeadingSlash, dropTrailingSlash_eq_nil_iff]

theorem ofPath_path (route : Route) : ofPath route.path = route := by
  cases route <;> decide

end Route

end LandingPage
