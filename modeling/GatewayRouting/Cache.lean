import GatewayRouting.Resolution

/-!
A bounded cache of resolutions. It belongs to one route table, and forgets everything when it is full.
-/

namespace GatewayRouting

/-- What a resolution depends on. -/
structure CacheKey where
  method : Method
  host : Option String
  path : String
  query : Option String
  /-- For each routing header its values, in the order sent. -/
  headers : List (List String)
deriving DecidableEq

/-- The key of a request under a table that looks at these headers. -/
def CacheKey.ofRequest (request : Request) (routingHeaders : List String) : CacheKey where
  method := request.method
  host := request.host.map Text.lowerAscii
  path := request.path
  query := request.query
  headers := routingHeaders.map request.headerValues

structure ResolutionCache where
  capacity : Nat
  entries : List (CacheKey × Resolution)
deriving DecidableEq

namespace ResolutionCache

def empty (capacity : Nat) : ResolutionCache := ⟨capacity, []⟩

def size (c : ResolutionCache) : Nat := c.entries.length

def isEmpty (c : ResolutionCache) : Bool := c.entries.isEmpty

def get? (c : ResolutionCache) (key : CacheKey) : Option Resolution := c.entries.lookup key

/-- The entries with this one in front, instead of one of the same key. -/
def putEntry (key : CacheKey) (resolution : Resolution) (entries : List (CacheKey × Resolution)) :
    List (CacheKey × Resolution) :=
  (key, resolution) :: entries.filter (·.1 != key)

/-- The cache with one more entry. A full cache is emptied before; one without room takes none. -/
def insert (c : ResolutionCache) (key : CacheKey) (resolution : Resolution) : ResolutionCache :=
  if c.capacity = 0 then c
  else { c with entries := putEntry key resolution (if c.capacity ≤ c.size then [] else c.entries) }

end ResolutionCache

end GatewayRouting
