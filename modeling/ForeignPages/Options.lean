namespace ForeignPages

/-- The limit of a cache that nobody configured. -/
def defaultLimit : Nat := 512

/-- The smallest limit that is accepted. A smaller cache would spend its time evicting. -/
def minLimit : Nat := 50

/-- What may be configured about a cache. -/
structure Options where
  /-- How many mappings a cache keeps before it makes room. -/
  limit : Nat := defaultLimit
  /-- Whether a failing mapping is told; guests leave many pages unpopulated. -/
  logMapFailures : Bool := false
deriving DecidableEq

/-- The structural form. -/
def Options.inspect (o : Options) : String :=
  "PageCacheOptions \x7b limit: " ++ toString o.limit ++ ", log_map_failures: " ++
    (if o.logMapFailures then "true" else "false") ++ " \x7d"

end ForeignPages
