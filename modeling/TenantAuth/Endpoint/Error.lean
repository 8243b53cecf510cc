/-!
This module contains the ways in which a text is no part of an endpoint policy.
-/

namespace TenantAuth

inductive EndpointError where
  | blankPattern
  | missingLeadingSlash (pattern : String)
  | patternTooLong (length : Nat)
  | misplacedDoubleWildcard (pattern : String)
  | unknownMethod (method : String)
  | blankServiceName
deriving DecidableEq, Repr

namespace EndpointError

def maxPatternLength : Nat := 500

def name : EndpointError → String
  | blankPattern => "BlankPattern"
  | missingLeadingSlash _ => "MissingLeadingSlash"
  | patternTooLong _ => "PatternTooLong"
  | misplacedDoubleWildcard _ => "MisplacedDoubleWildcard"
  | unknownMethod _ => "UnknownMethod"
  | blankServiceName => "BlankServiceName"

def message : EndpointError → String
  | blankPattern => "url pattern must not be blank"
  | missingLeadingSlash pattern => "url pattern must start with '/': " ++ pattern
  | patternTooLong length =>
    "url pattern exceeds " ++ toString maxPatternLength ++ " characters (" ++ toString length ++ ")"
  | misplacedDoubleWildcard pattern => "'**' is only allowed as the last segment: " ++ pattern
  | unknownMethod method => "unsupported http method: " ++ method
  | blankServiceName => "service name must not be blank"

end EndpointError

end TenantAuth
