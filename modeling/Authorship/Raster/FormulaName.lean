import Authorship.Text.Blank

namespace Authorship.Raster.Formula

def namesIn (text : String) : List String :=
  (Text.words text.toList).map String.ofList

def fontNames : List String :=
  namesIn "rm cal it tt sf bf bfit default bb frak scr regular normal"

def functionNames : List String :=
  namesIn "arccos arcsin arctan arg cos cosh cot coth csc deg det dim exp gcd hom inf ker lg lim
    liminf limsup ln log max min Pr sec sin sinh sup tan tanh"

def accentNames : List String :=
  namesIn "hat breve bar grave acute tilde dot ddot dddot ddddot vec overrightarrow overleftarrow
    mathring widehat widetilde widebar"

def accentMarks : List Char := ['"', '\x60', '\'', '~', '.', '^']

def spaceNames : List String := namesIn "thinspace enspace quad qquad"

def spaceMarks : List Char := [',', '/', '>', ':', ';', ' ', '!']

def delimiterNames : List String :=
  namesIn "backslash uparrow downarrow updownarrow Uparrow Downarrow Updownarrow vert Vert lfloor
    langle lceil lbrace leftbrace lbrack leftparen lgroup rfloor rangle rceil rbrace rightbrace
    rbrack rightparen rgroup"

def delimiterMarks : List Char := ['|', '/', '.', '(', '[', '<', ')', ']', '>']

def letterNames : List String :=
  namesIn "alpha beta gamma delta epsilon varepsilon zeta eta theta vartheta iota kappa varkappa
    lambda mu nu xi omicron pi varpi rho varrho sigma varsigma tau upsilon phi varphi chi psi omega
    digamma Alpha Beta Gamma Delta Epsilon Zeta Eta Theta Iota Kappa Lambda Mu Nu Xi Omicron Pi Rho
    Sigma Tau Upsilon Phi Chi Psi Omega Koppa Stigma Sampi koppa stigma sampi aleph beth gimel
    daleth hbar hslash imath jmath ell wp Re Im Bbbk Finv Game AA AE BbbC BbbN BbbP BbbQ BbbR BbbZ
    L O OE ae aa l o oe ss eth dh thorn i mho partial nabla"

def arrowNames : List String :=
  namesIn "leftarrow rightarrow uparrow downarrow updownarrow leftrightarrow Leftarrow Rightarrow
    Uparrow Downarrow Updownarrow Leftrightarrow longleftarrow longrightarrow longleftrightarrow
    Longleftarrow Longrightarrow Longleftrightarrow longmapsto mapsto mapsfrom hookleftarrow
    hookrightarrow leftharpoonup leftharpoondown rightharpoonup rightharpoondown
    rightleftharpoons leftrightharpoons upharpoonleft upharpoonright downharpoonleft
    downharpoonright nearrow searrow swarrow nwarrow nwsearrow neswarrow nleftarrow nrightarrow
    nLeftarrow nRightarrow nleftrightarrow nLeftrightarrow dashrightarrow dashleftarrow
    leftleftarrows rightrightarrows upuparrows downdownarrows leftrightarrows rightleftarrows
    Lleftarrow Rrightarrow twoheadleftarrow twoheadrightarrow leftarrowtail rightarrowtail
    looparrowleft looparrowright leftrightsquigarrow rightsquigarrow leftsquigarrow rightzigzagarrow
    Lsh Rsh lsh rsh curvearrowleft curvearrowright circlearrowleft circlearrowright barleftarrow
    rightarrowbar mapsup mapsdown upzigzagarrow leftwavearrow rightwavearrow restriction
    to gets leadsto cwopencirclearrow acwopencirclearrow multimap"

def operatorNames : List String :=
  namesIn "pm mp times div ast star circ bullet cdot cap cup uplus sqcap sqcup vee wedge setminus
    wr diamond bigtriangleup bigtriangledown triangleleft triangleright lhd rhd unlhd unrhd oplus
    ominus otimes oslash odot bigcirc dagger ddagger amalg dotplus dotminus Cap Cup barwedge
    doublebarwedge boxdot boxminus boxplus boxtimes boxbar curlyvee curlywedge divideontimes
    leftthreetimes rightthreetimes ltimes rtimes slash veebar barvee cupdot intercal circledcirc
    circleddash circledast obar merge minuscolon dotsminusdots land lor lnot neg sum prod coprod
    bigcap bigcup bigsqcup bigvee bigwedge bigodot bigotimes bigoplus biguplus int oint iint oiint
    iiint oiiint iiiint bigstar surd smallsetminus centerdot"

def relationNames : List String :=
  namesIn "leq geq le ge ne neq leqq geqq leqslant geqslant ll gg lll ggg lesssim gtrsim
    lessapprox gtrapprox lessgtr gtrless lesseqgtr gtreqless lessdot gtrdot nless ngtr nleq ngeq
    nleqq ngeqq lneq gneq lneqq gneqq lnsim gnsim lnapprox gnapprox lvertneqq gvertneqq equiv nequiv
    sim nsim simeq nsimeq approx napprox approxeq cong ncong asymp doteq doteqdot Doteq
    risingdotseq fallingdotseq backsim backsimeq propto varpropto prec succ preceq succeq
    preccurlyeq succcurlyeq precsim succsim precapprox succapprox nprec nsucc precnsim succnsim
    precneqq succneqq precnapprox succnapprox curlyeqprec curlyeqsucc subset supset subseteq
    supseteq nsubset nsupset nsubseteq nsupseteq subsetneq supsetneq subseteqq supseteqq subsetneqq
    supsetneqq sqsubset sqsupset sqsubseteq sqsupseteq sqsubsetneq sqsupsetneq Subset Supset in ni
    notin nin mid nmid parallel nparallel perp vdash dashv vDash Vdash Vvdash VDash nvdash nvDash
    nVdash nVDash models smile frown bowtie Join between pitchfork therefore because coloneq eqcolon
    Coloneq eqsim triangleq bumpeq Bumpeq eqcirc circeq wedgeq veeeq stareq measeq questeq
    trianglelefteq trianglerighteq ntriangleleft ntriangleright ntrianglelefteq ntrianglerighteq
    vartriangleleft vartriangleright blacktriangleleft blacktriangleright ratio Colon owns
    nexists nobreakspace kernelcontraction"

def signNames : List String :=
  namesIn "infty forall exists emptyset varnothing angle measuredangle sphericalangle prime
    backprime dprime trprime qprime ldots cdots vdots ddots adots dots ldotp cdotp colon degree
    circumflexaccent top bot flat natural sharp clubsuit diamondsuit heartsuit spadesuit Diamond Box
    blacksquare square blacklozenge lozenge triangle triangledown blacktriangle blacktriangledown
    bigblacktriangleup bigtriangleup vartriangle complement copyright circledR circledS checkmark
    maltese dag ddag S P pounds yen euro backslash vert Vert lbrace rbrace lbrack rbrack langle
    rangle lfloor rfloor lceil rceil lgroup rgroup leftparen rightparen leftbrace rightbrace
    ulcorner urcorner llcorner lrcorner cent sterling danger ac hermitmatrix iinfin blank mathdollar
    quotedblleft quotedblright quotedblbase quoteleft quoteright quotesinglbase textquotedblleft
    textquotedblright guillemotleft guillemotright guilsinglleft guilsinglright exclamdown
    questiondown emdash endash hyphen minus plus equal less greater period comma semicolon underbar
    underscore asterisk ampersand percent numbersign dollar at bar textasciiacute textasciicircum
    textasciigrave textasciitilde perthousand oe combiningacuteaccent combiningbreve
    combiningdiaeresis combiningdotabove combininggraveaccent combiningoverline
    combiningrightarrowabove combiningtilde combiningfourdotsabove combiningthreedotsabove
    enclosecircle sterling not nolimits fallingdotseq hbar updownarrowbar circledrightdot thickspace"

def symbolNames : List String :=
  letterNames ++ arrowNames ++ operatorNames ++ relationNames ++ signNames

end Authorship.Raster.Formula
