import ApiGateway.Proofs.Routing.Built

/-!
# Forwarded paths

The prefix of a route that was built starts with a slash, and so does the path that
the route sends on. The one exception is the root prefix: it sends every path on as it
came, with or without a slash.
-/

namespace ApiGateway.Routing

theorem rooted_eq_cons (text : List Char) : ∃ rest, rooted text = '/' :: rest := by
  simp only [rooted]
  split
  · exact ⟨_, rfl⟩
  · exact ⟨_, rfl⟩

theorem normalizePrefixChars_eq_cons (text : List Char) :
    ∃ rest, normalizePrefixChars text = '/' :: rest := by
  obtain ⟨tail, opened⟩ := rooted_eq_cons text
  simp only [normalizePrefixChars]
  split
  · exact ⟨[], rfl⟩
  · next trimmed filled =>
      -- What is left of the rooted text is a beginning of it, so it has its first slash.
      obtain ⟨back, whole⟩ := Text.trimEndWith_prefix (· = '/') (rooted text)
      cases front : Text.trimEndWith (· = '/') (rooted text) with
      | nil => exact absurd front filled
      | cons c rest =>
          rw [front, opened] at whole
          cases whole
          exact ⟨rest, rfl⟩

theorem Definition.Yields.prefix_eq_cons {defaultTimeout : Duration} {definition : Definition}
    {route : Route} (yields : definition.Yields defaultTimeout route) :
    ∃ rest, route.pathPrefix.toList = '/' :: rest := by
  obtain ⟨-, url, methods, -, -, rfl⟩ := yields
  simp only [Definition.route, normalizePrefix, String.toList_ofList]
  exact normalizePrefixChars_eq_cons _

namespace Route

/-- The path that is sent on for a covered path starts with a slash, unless the prefix is the
root and leaves the path as it is. -/
theorem forwardedChars_of_covers {route : Route}
    (opened : ∃ rest, route.pathPrefix.toList = '/' :: rest) {path : List Char}
    (covered : coversChars route.pathPrefix.toList path = true) :
    (route.pathPrefix = "/" ∧ route.forwardedChars path = path) ∨
      ∃ rest, route.forwardedChars path = '/' :: rest := by
  by_cases root : route.pathPrefix.toList = ['/']
  · left
    refine ⟨String.toList_inj.mp root, ?_⟩
    simp [forwardedChars, root]
  · right
    simp only [coversChars, root, if_false] at covered
    simp only [forwardedChars, root, if_false]
    split
    · exact ⟨_, rfl⟩
    · split
      · split
        · exact rooted_eq_cons _
        · next missing => simp [missing] at covered
      · cases dropped : Text.dropPrefix? route.pathPrefix.toList path with
        | none => simp [dropped] at covered
        | some rest =>
            obtain ⟨front, opens⟩ := opened
            rw [Text.dropPrefix?_eq_some_iff.mp dropped, opens]
            exact ⟨front ++ rest, rfl⟩

end Route

end ApiGateway.Routing
