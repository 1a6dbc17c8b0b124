import Searchlight.Text.Table

/-!
# Age

The version of the character standard in which each character was assigned. The table lists, in
order, each code point where a run of characters of one version starts and that version; a hyphen
stands before a run that is unassigned.
-/

namespace Searchlight.Text

def ageText : String := "
    0=1.1 1f6=3.0 1fa=1.1 218=3.0 220=3.2 221=4.0 222=3.0 234=4.0 237=4.1 242=5.0 250=1.1 2a9=3.0
    2ae=4.0 2b0=1.1 2df=3.0 2e0=1.1 2ea=3.0 2ef=4.0 300=1.1 346=3.0 34f=3.2 350=4.0 358=4.1 35d=4.0
    360=1.1 362=3.0 363=3.2 370=5.1 374=1.1 376=5.1 378- 37a=1.1 37b=5.0 37e=1.1 37f=7.0 380-
    384=1.1 38b- 38c=1.1 38d- 38e=1.1 3a2- 3a3=1.1 3cf=5.1 3d0=1.1 3d7=3.0 3d8=3.2 3da=1.1 3db=3.0
    3dc=1.1 3dd=3.0 3de=1.1 3df=3.0 3e0=1.1 3e1=3.0 3e2=1.1 3f4=3.1 3f6=3.2 3f7=4.0 3fc=4.1 400=3.0
    401=1.1 40d=3.0 40e=1.1 450=3.0 451=1.1 45d=3.0 45e=1.1 487=5.1 488=3.0 48a=3.2 48c=3.0 490=1.1
    4c5=3.2 4c7=1.1 4c9=3.2 4cb=1.1 4cd=3.2 4cf=5.0 4d0=1.1 4ec=3.0 4ee=1.1 4f6=4.1 4f8=1.1 4fa=5.0
    500=3.2 510=5.0 514=5.1 524=5.2 526=6.0 528=7.0 530- 531=1.1 557- 559=1.1 560=11.0 561=1.1
    588=11.0 589=1.1 58a=3.0 58b- 58d=7.0 58f=6.1 590- 591=2.0 5a2=4.1 5a3=2.0 5b0=1.1 5ba=5.0
    5bb=1.1 5c4=2.0 5c5=4.1 5c8- 5d0=1.1 5eb- 5ef=11.0 5f0=1.1 5f5- 600=4.0 604=6.1 605=7.0 606=5.1
    60b=4.1 60c=1.1 60d=4.0 616=5.1 61b=1.1 61c=6.3 61d=14.0 61e=4.1 61f=1.1 620=6.0 621=1.1
    63b=5.1 640=1.1 653=3.0 656=4.0 659=4.1 65f=6.0 660=1.1 66e=3.2 670=1.1 6b8=3.0 6ba=1.1 6bf=3.0
    6c0=1.1 6cf=3.0 6d0=1.1 6ee=4.0 6f0=1.1 6fa=3.0 6ff=4.0 700=3.0 70e- 70f=3.0 72d=4.0 730=3.0
    74b- 74d=4.0 750=4.1 76e=5.1 780=3.0 7b1=3.2 7b2- 7c0=5.0 7fb- 7fd=11.0 800=5.2 82e- 830=5.2
    83f- 840=6.0 85c- 85e=6.0 85f- 860=10.0 86b- 870=14.0 88f=17.0 890=14.0 892- 897=16.0 898=14.0
    8a0=6.1 8a1=7.0 8a2=6.1 8ad=7.0 8b3=8.0 8b5=14.0 8b6=9.0 8be=13.0 8c8=14.0 8d3=11.0 8d4=9.0
    8e3=8.0 8e4=6.1 8ff=7.0 900=5.2 901=1.1 904=4.0 905=1.1 93a=6.0 93c=1.1 94e=5.2 94f=6.0 950=1.1
    955=5.2 956=6.0 958=1.1 971=5.1 973=6.0 978=7.0 979=5.2 97b=5.0 97d=4.1 97e=5.0 980=7.0 981=1.1
    984- 985=1.1 98d- 98f=1.1 991- 993=1.1 9a9- 9aa=1.1 9b1- 9b2=1.1 9b3- 9b6=1.1 9ba- 9bc=1.1
    9bd=4.0 9be=1.1 9c5- 9c7=1.1 9c9- 9cb=1.1 9ce=4.1 9cf- 9d7=1.1 9d8- 9dc=1.1 9de- 9df=1.1 9e4-
    9e6=1.1 9fb=5.2 9fc=10.0 9fe=11.0 9ff- a01=4.0 a02=1.1 a03=4.0 a04- a05=1.1 a0b- a0f=1.1 a11-
    a13=1.1 a29- a2a=1.1 a31- a32=1.1 a34- a35=1.1 a37- a38=1.1 a3a- a3c=1.1 a3d- a3e=1.1 a43-
    a47=1.1 a49- a4b=1.1 a4e- a51=5.1 a52- a59=1.1 a5d- a5e=1.1 a5f- a66=1.1 a75=5.1 a76=11.0 a77-
    a81=1.1 a84- a85=1.1 a8c=4.0 a8d=1.1 a8e- a8f=1.1 a92- a93=1.1 aa9- aaa=1.1 ab1- ab2=1.1 ab4-
    ab5=1.1 aba- abc=1.1 ac6- ac7=1.1 aca- acb=1.1 ace- ad0=1.1 ad1- ae0=1.1 ae1=4.0 ae4- ae6=1.1
    af0=6.1 af1=4.0 af2- af9=8.0 afa=10.0 b00- b01=1.1 b04- b05=1.1 b0d- b0f=1.1 b11- b13=1.1 b29-
    b2a=1.1 b31- b32=1.1 b34- b35=4.0 b36=1.1 b3a- b3c=1.1 b44=5.1 b45- b47=1.1 b49- b4b=1.1 b4e-
    b55=13.0 b56=1.1 b58- b5c=1.1 b5e- b5f=1.1 b62=5.1 b64- b66=1.1 b71=4.0 b72=6.0 b78- b82=1.1
    b84- b85=1.1 b8b- b8e=1.1 b91- b92=1.1 b96- b99=1.1 b9b- b9c=1.1 b9d- b9e=1.1 ba0- ba3=1.1 ba5-
    ba8=1.1 bab- bae=1.1 bb6=4.1 bb7=1.1 bba- bbe=1.1 bc3- bc6=1.1 bc9- bca=1.1 bce- bd0=5.1 bd1-
    bd7=1.1 bd8- be6=4.1 be7=1.1 bf3=4.0 bfb- c00=7.0 c01=1.1 c04=11.0 c05=1.1 c0d- c0e=1.1 c11-
    c12=1.1 c29- c2a=1.1 c34=7.0 c35=1.1 c3a- c3c=14.0 c3d=5.1 c3e=1.1 c45- c46=1.1 c49- c4a=1.1
    c4e- c55=1.1 c57- c58=5.1 c5a=8.0 c5b- c5c=17.0 c5d=14.0 c5e- c60=1.1 c62=5.1 c64- c66=1.1 c70-
    c77=12.0 c78=5.1 c80=9.0 c81=7.0 c82=1.1 c84=11.0 c85=1.1 c8d- c8e=1.1 c91- c92=1.1 ca9-
    caa=1.1 cb4- cb5=1.1 cba- cbc=4.0 cbe=1.1 cc5- cc6=1.1 cc9- cca=1.1 cce- cd5=1.1 cd7- cdc=17.0
    cdd=14.0 cde=1.1 cdf- ce0=1.1 ce2=5.0 ce4- ce6=1.1 cf0- cf1=5.0 cf3=15.0 cf4- d00=10.0 d01=7.0
    d02=1.1 d04=13.0 d05=1.1 d0d- d0e=1.1 d11- d12=1.1 d29=6.0 d2a=1.1 d3a=6.0 d3b=10.0 d3d=5.1
    d3e=1.1 d44=5.1 d45- d46=1.1 d49- d4a=1.1 d4e=6.0 d4f=9.0 d50- d54=9.0 d57=1.1 d58=9.0 d5f=8.0
    d60=1.1 d62=5.1 d64- d66=1.1 d70=5.1 d76=9.0 d79=5.1 d80- d81=13.0 d82=3.0 d84- d85=3.0 d97-
    d9a=3.0 db2- db3=3.0 dbc- dbd=3.0 dbe- dc0=3.0 dc7- dca=3.0 dcb- dcf=3.0 dd5- dd6=3.0 dd7-
    dd8=3.0 de0- de6=7.0 df0- df2=3.0 df5- e01=1.1 e3b- e3f=1.1 e5c- e81=1.1 e83- e84=1.1 e85-
    e86=12.0 e87=1.1 e89=12.0 e8a=1.1 e8b- e8c=12.0 e8d=1.1 e8e=12.0 e94=1.1 e98=12.0 e99=1.1
    ea0=12.0 ea1=1.1 ea4- ea5=1.1 ea6- ea7=1.1 ea8=12.0 eaa=1.1 eac=12.0 ead=1.1 eba=12.0 ebb=1.1
    ebe- ec0=1.1 ec5- ec6=1.1 ec7- ec8=1.1 ece=15.0 ecf- ed0=1.1 eda- edc=1.1 ede=6.1 ee0- f00=2.0
    f48- f49=2.0 f6a=3.0 f6b=5.1 f6d- f71=2.0 f8c=6.0 f90=2.0 f96=3.0 f97=2.0 f98- f99=2.0 fae=3.0
    fb1=2.0 fb8=3.0 fb9=2.0 fba=3.0 fbd- fbe=3.0 fcd- fce=5.1 fcf=3.0 fd0=4.1 fd2=5.1 fd5=5.2
    fd9=6.0 fdb- 1000=3.0 1022=5.1 1023=3.0 1028=5.1 1029=3.0 102b=5.1 102c=3.0 1033=5.1 1036=3.0
    103a=5.1 1040=3.0 105a=5.1 109a=5.2 109e=5.1 10a0=1.1 10c6- 10c7=6.1 10c8- 10cd=6.1 10ce-
    10d0=1.1 10f7=3.2 10f9=4.1 10fb=1.1 10fc=4.1 10fd=6.1 1100=1.1 115a=5.2 115f=1.1 11a3=5.2
    11a8=1.1 11fa=5.2 1200=3.0 1207=4.1 1208=3.0 1247=4.1 1248=3.0 1249- 124a=3.0 124e- 1250=3.0
    1257- 1258=3.0 1259- 125a=3.0 125e- 1260=3.0 1287=4.1 1288=3.0 1289- 128a=3.0 128e- 1290=3.0
    12af=4.1 12b0=3.0 12b1- 12b2=3.0 12b6- 12b8=3.0 12bf- 12c0=3.0 12c1- 12c2=3.0 12c6- 12c8=3.0
    12cf=4.1 12d0=3.0 12d7- 12d8=3.0 12ef=4.1 12f0=3.0 130f=4.1 1310=3.0 1311- 1312=3.0 1316-
    1318=3.0 131f=4.1 1320=3.0 1347=4.1 1348=3.0 135b- 135d=6.0 135f=4.1 1361=3.0 137d- 1380=4.1
    139a- 13a0=3.0 13f5=8.0 13f6- 13f8=8.0 13fe- 1400=5.2 1401=3.0 1677=5.2 1680=3.0 169d- 16a0=3.0
    16f1=7.0 16f9- 1700=3.2 170d=14.0 170e=3.2 1715=14.0 1716- 171f=14.0 1720=3.2 1737- 1740=3.2
    1754- 1760=3.2 176d- 176e=3.2 1771- 1772=3.2 1774- 1780=3.0 17dd=4.0 17de- 17e0=3.0 17ea-
    17f0=4.0 17fa- 1800=3.0 180f=14.0 1810=3.0 181a- 1820=3.0 1878=11.0 1879- 1880=3.0 18aa=5.1
    18ab- 18b0=5.2 18f6- 1900=4.0 191d=7.0 191f- 1920=4.0 192c- 1930=4.0 193c- 1940=4.0 1941-
    1944=4.0 196e- 1970=4.0 1975- 1980=4.1 19aa=5.2 19ac- 19b0=4.1 19ca- 19d0=4.1 19da=5.2 19db-
    19de=4.1 19e0=4.0 1a00=4.1 1a1c- 1a1e=4.1 1a20=5.2 1a5f- 1a60=5.2 1a7d- 1a7f=5.2 1a8a- 1a90=5.2
    1a9a- 1aa0=5.2 1aae- 1ab0=7.0 1abf=13.0 1ac1=14.0 1acf=17.0 1ade- 1ae0=17.0 1aec- 1b00=5.0
    1b4c=14.0 1b4d- 1b4e=16.0 1b50=5.0 1b7d=14.0 1b7f=16.0 1b80=5.1 1bab=6.1 1bae=5.1 1bba=6.1
    1bc0=6.0 1bf4- 1bfc=6.0 1c00=5.1 1c38- 1c3b=5.1 1c4a- 1c4d=5.1 1c80=9.0 1c89=16.0 1c8b-
    1c90=11.0 1cbb- 1cbd=11.0 1cc0=6.1 1cc8- 1cd0=5.2 1cf3=6.1 1cf7=10.0 1cf8=7.0 1cfa=12.0 1cfb-
    1d00=4.0 1d6c=4.1 1dc4=5.0 1dcb=5.1 1de7=7.0 1df6=10.0 1dfa=14.0 1dfb=9.0 1dfc=6.0 1dfd=5.2
    1dfe=5.0 1e00=1.1 1e9b=2.0 1e9c=5.1 1ea0=1.1 1efa=5.1 1f00=1.1 1f16- 1f18=1.1 1f1e- 1f20=1.1
    1f46- 1f48=1.1 1f4e- 1f50=1.1 1f58- 1f59=1.1 1f5a- 1f5b=1.1 1f5c- 1f5d=1.1 1f5e- 1f5f=1.1 1f7e-
    1f80=1.1 1fb5- 1fb6=1.1 1fc5- 1fc6=1.1 1fd4- 1fd6=1.1 1fdc- 1fdd=1.1 1ff0- 1ff2=1.1 1ff5-
    1ff6=1.1 1fff- 2000=1.1 202f=3.0 2030=1.1 2047=3.2 2048=3.0 204e=3.2 2053=4.0 2055=4.1 2057=3.2
    2058=4.1 205f=3.2 2064=5.1 2065- 2066=6.3 206a=1.1 2071=3.2 2072- 2074=1.1 208f- 2090=4.1
    2095=6.0 209d- 20a0=1.1 20ab=2.0 20ac=2.1 20ad=3.0 20b0=3.2 20b2=4.1 20b6=5.2 20b9=6.0 20ba=6.2
    20bb=7.0 20be=8.0 20bf=10.0 20c0=14.0 20c1=17.0 20c2- 20d0=1.1 20e2=3.0 20e4=3.2 20eb=4.1
    20ec=5.0 20f0=5.1 20f1- 2100=1.1 2139=3.0 213b=4.0 213c=4.1 213d=3.2 214c=4.1 214d=5.0 214f=5.1
    2150=5.2 2153=1.1 2183=3.0 2184=5.0 2185=5.1 2189=5.2 218a=8.0 218c- 2190=1.1 21eb=3.0 21f4=3.2
    2200=1.1 22f2=3.2 2300=1.1 2301=3.0 2302=1.1 237b=3.0 237c=3.2 237d=3.0 239b=3.2 23cf=4.0
    23d1=4.1 23dc=5.0 23e8=5.2 23e9=6.0 23f4=7.0 23fb=9.0 23ff=10.0 2400=1.1 2425=3.0 2427=16.0
    242a- 2440=1.1 244b- 2460=1.1 24eb=3.2 24ff=4.0 2500=1.1 2596=3.2 25a0=1.1 25f0=3.0 25f8=3.2
    2600=1.1 2614=4.0 2616=3.2 2618=4.1 2619=3.0 261a=1.1 2670=3.0 2672=3.2 267e=4.1 2680=3.2
    268a=4.0 2692=4.1 269d=5.1 269e=5.2 26a0=4.0 26a2=4.1 26b2=5.0 26b3=5.1 26bd=5.2 26c0=5.1
    26c4=5.2 26ce=6.0 26cf=5.2 26e2=6.0 26e3=5.2 26e4=6.0 26e8=5.2 2700=7.0 2701=1.1 2705=6.0
    2706=1.1 270a=6.0 270c=1.1 2728=6.0 2729=1.1 274c=6.0 274d=1.1 274e=6.0 274f=1.1 2753=6.0
    2756=1.1 2757=5.2 2758=1.1 275f=6.0 2761=1.1 2768=3.2 2776=1.1 2795=6.0 2798=1.1 27b0=6.0
    27b1=1.1 27bf=6.0 27c0=4.1 27c7=5.0 27cb=6.1 27cc=5.1 27cd=6.1 27ce=6.0 27d0=3.2 27ec=5.1
    27f0=3.2 2800=3.0 2900=3.2 2b00=4.0 2b0e=4.1 2b14=5.0 2b1b=5.1 2b20=5.0 2b24=5.1 2b4d=7.0
    2b50=5.1 2b55=5.2 2b5a=7.0 2b74- 2b76=7.0 2b96=17.0 2b97=13.0 2b98=7.0 2bba=11.0 2bbd=7.0
    2bc9=12.0 2bca=7.0 2bd2=10.0 2bd3=11.0 2bec=8.0 2bf0=11.0 2bff=12.0 2c00=4.1 2c2f=14.0 2c30=4.1
    2c5f=14.0 2c60=5.0 2c6d=5.1 2c70=5.2 2c71=5.1 2c74=5.0 2c78=5.1 2c7e=5.2 2c80=4.1 2ceb=5.2
    2cf2=6.1 2cf4- 2cf9=4.1 2d26- 2d27=6.1 2d28- 2d2d=6.1 2d2e- 2d30=4.1 2d66=6.1 2d68- 2d6f=4.1
    2d70=6.0 2d71- 2d7f=6.0 2d80=4.1 2d97- 2da0=4.1 2da7- 2da8=4.1 2daf- 2db0=4.1 2db7- 2db8=4.1
    2dbf- 2dc0=4.1 2dc7- 2dc8=4.1 2dcf- 2dd0=4.1 2dd7- 2dd8=4.1 2ddf- 2de0=5.1 2e00=4.1 2e18=5.1
    2e1c=4.1 2e1e=5.1 2e31=5.2 2e32=6.1 2e3c=7.0 2e43=9.0 2e45=10.0 2e4a=11.0 2e4f=12.0 2e50=13.0
    2e53=14.0 2e5e- 2e80=3.0 2e9a- 2e9b=3.0 2ef4- 2f00=3.0 2fd6- 2ff0=3.0 2ffc=15.1 3000=1.1
    3038=3.0 303b=3.2 303e=3.0 303f=1.1 3040- 3041=1.1 3095=3.2 3097- 3099=1.1 309f=3.2 30a1=1.1
    30ff=3.2 3100- 3105=1.1 312d=5.1 312e=10.0 312f=11.0 3130- 3131=1.1 318f- 3190=1.1 31a0=3.0
    31b8=6.0 31bb=13.0 31c0=4.1 31d0=5.1 31e4=16.0 31e6- 31ef=15.1 31f0=3.2 3200=1.1 321d=4.0 321f-
    3220=1.1 3244=5.2 3250=4.0 3251=3.2 3260=1.1 327c=4.0 327e=4.1 327f=1.1 32b1=3.2 32c0=1.1
    32cc=4.0 32d0=1.1 32ff=12.1 3300=1.1 3377=4.0 337b=1.1 33de=4.0 33e0=1.1 33ff=4.0 3400=3.0
    4db6=13.0 4dc0=4.0 4e00=1.1 9fa6=4.1 9fbc=5.1 9fc4=5.2 9fcc=6.1 9fcd=8.0 9fd6=10.0 9feb=11.0
    9ff0=13.0 9ffd=14.0 a000=3.0 a48d- a490=3.0 a4a2=3.2 a4a4=3.0 a4b4=3.2 a4b5=3.0 a4c1=3.2
    a4c2=3.0 a4c5=3.2 a4c6=3.0 a4c7- a4d0=5.2 a500=5.1 a62c- a640=5.1 a660=6.0 a662=5.1 a674=6.1
    a67c=5.1 a698=7.0 a69e=8.0 a69f=6.1 a6a0=5.2 a6f8- a700=4.1 a717=5.0 a71b=5.1 a720=5.0 a722=5.1
    a78d=6.0 a78f=8.0 a790=6.0 a792=6.1 a794=7.0 a7a0=6.0 a7aa=6.1 a7ab=7.0 a7ae=9.0 a7af=11.0
    a7b0=7.0 a7b2=8.0 a7b8=11.0 a7ba=12.0 a7c0=14.0 a7c2=12.0 a7c7=13.0 a7cb=16.0 a7ce=17.0
    a7d0=14.0 a7d2=17.0 a7d3=14.0 a7d4=17.0 a7d5=14.0 a7da=16.0 a7dd- a7f1=17.0 a7f2=14.0 a7f5=13.0
    a7f7=7.0 a7f8=6.1 a7fa=6.0 a7fb=5.1 a800=4.1 a82c=13.0 a82d- a830=5.2 a83a- a840=5.0 a878-
    a880=5.1 a8c5=9.0 a8c6- a8ce=5.1 a8da- a8e0=5.2 a8fc=8.0 a8fe=11.0 a900=5.1 a954- a95f=5.1
    a960=5.2 a97d- a980=5.2 a9ce- a9cf=5.2 a9da- a9de=5.2 a9e0=7.0 a9ff- aa00=5.1 aa37- aa40=5.1
    aa4e- aa50=5.1 aa5a- aa5c=5.1 aa60=5.2 aa7c=7.0 aa80=5.2 aac3- aadb=5.2 aae0=6.1 aaf7- ab01=6.0
    ab07- ab09=6.0 ab0f- ab11=6.0 ab17- ab20=6.0 ab27- ab28=6.0 ab2f- ab30=7.0 ab60=8.0 ab64=7.0
    ab66=12.0 ab68=13.0 ab6c- ab70=8.0 abc0=5.2 abee- abf0=5.2 abfa- ac00=2.0 d7a4- d7b0=5.2 d7c7-
    d7cb=5.2 d7fc- e000=1.1 fa2e=6.1 fa30=3.2 fa6b=5.2 fa6e- fa70=4.1 fada- fb00=1.1 fb07- fb13=1.1
    fb18- fb1d=3.0 fb1e=1.1 fb37- fb38=1.1 fb3d- fb3e=1.1 fb3f- fb40=1.1 fb42- fb43=1.1 fb45-
    fb46=1.1 fbb2=6.0 fbc2=14.0 fbc3=17.0 fbd3=1.1 fd40=14.0 fd50=1.1 fd90=17.0 fd92=1.1 fdc8=17.0
    fdcf=14.0 fdd0=3.1 fdf0=1.1 fdfc=3.2 fdfd=4.0 fdfe=14.0 fe00=3.2 fe10=4.1 fe1a- fe20=1.1
    fe24=5.1 fe27=7.0 fe2e=8.0 fe30=1.1 fe45=3.2 fe47=4.0 fe49=1.1 fe53- fe54=1.1 fe67- fe68=1.1
    fe6c- fe70=1.1 fe73=3.2 fe74=1.1 fe75- fe76=1.1 fefd- feff=1.1 ff00- ff01=1.1 ff5f=3.2 ff61=1.1
    ffbf- ffc2=1.1 ffc8- ffca=1.1 ffd0- ffd2=1.1 ffd8- ffda=1.1 ffdd- ffe0=1.1 ffe7- ffe8=1.1 ffef-
    fff9=3.0 fffc=2.1 fffd=1.1 10000=4.0 1000c- 1000d=4.0 10027- 10028=4.0 1003b- 1003c=4.0 1003e-
    1003f=4.0 1004e- 10050=4.0 1005e- 10080=4.0 100fb- 10100=4.0 10103- 10107=4.0 10134- 10137=4.0
    10140=4.1 1018b=7.0 1018d=9.0 1018f- 10190=5.1 1019c=13.0 1019d- 101a0=7.0 101a1- 101d0=5.1
    101fe- 10280=5.1 1029d- 102a0=5.1 102d1- 102e0=7.0 102fc- 10300=3.1 1031f=7.0 10320=3.1 10324-
    1032d=10.0 10330=3.1 1034b- 10350=7.0 1037b- 10380=4.0 1039e- 1039f=4.0 103a0=4.1 103c4-
    103c8=4.1 103d6- 10400=3.1 10426=4.0 10428=3.1 1044e=4.0 1049e- 104a0=4.0 104aa- 104b0=9.0
    104d4- 104d8=9.0 104fc- 10500=7.0 10528- 10530=7.0 10564- 1056f=7.0 10570=14.0 1057b-
    1057c=14.0 1058b- 1058c=14.0 10593- 10594=14.0 10596- 10597=14.0 105a2- 105a3=14.0 105b2-
    105b3=14.0 105ba- 105bb=14.0 105bd- 105c0=16.0 105f4- 10600=7.0 10737- 10740=7.0 10756-
    10760=7.0 10768- 10780=14.0 10786- 10787=14.0 107b1- 107b2=14.0 107bb- 10800=4.0 10806-
    10808=4.0 10809- 1080a=4.0 10836- 10837=4.0 10839- 1083c=4.0 1083d- 1083f=4.0 10840=5.2 10856-
    10857=5.2 10860=7.0 1089f- 108a7=7.0 108b0- 108e0=8.0 108f3- 108f4=8.0 108f6- 108fb=8.0
    10900=5.0 1091a=5.2 1091c- 1091f=5.0 10920=5.1 1093a- 1093f=5.1 10940=17.0 1095a- 10980=6.1
    109b8- 109bc=8.0 109be=6.1 109c0=8.0 109d0- 109d2=8.0 10a00=4.1 10a04- 10a05=4.1 10a07-
    10a0c=4.1 10a14- 10a15=4.1 10a18- 10a19=4.1 10a34=11.0 10a36- 10a38=4.1 10a3b- 10a3f=4.1
    10a48=11.0 10a49- 10a50=4.1 10a59- 10a60=5.2 10a80=7.0 10aa0- 10ac0=7.0 10ae7- 10aeb=7.0 10af7-
    10b00=5.2 10b36- 10b39=5.2 10b56- 10b58=5.2 10b73- 10b78=5.2 10b80=7.0 10b92- 10b99=7.0 10b9d-
    10ba9=7.0 10bb0- 10c00=5.2 10c49- 10c80=8.0 10cb3- 10cc0=8.0 10cf3- 10cfa=8.0 10d00=11.0 10d28-
    10d30=11.0 10d3a- 10d40=16.0 10d66- 10d69=16.0 10d86- 10d8e=16.0 10d90- 10e60=5.2 10e7f-
    10e80=13.0 10eaa- 10eab=13.0 10eae- 10eb0=13.0 10eb2- 10ec2=16.0 10ec5=17.0 10ec8- 10ed0=17.0
    10ed9- 10efa=17.0 10efc=16.0 10efd=15.0 10f00=11.0 10f28- 10f30=11.0 10f5a- 10f70=14.0 10f8a-
    10fb0=13.0 10fcc- 10fe0=12.0 10ff7- 11000=6.0 1104e- 11052=6.0 11070=14.0 11076- 1107f=7.0
    11080=5.2 110c2=14.0 110c3- 110cd=11.0 110ce- 110d0=6.1 110e9- 110f0=6.1 110fa- 11100=6.1
    11135- 11136=6.1 11144=11.0 11147=13.0 11148- 11150=7.0 11177- 11180=6.1 111c9=8.0 111cd=7.0
    111ce=13.0 111d0=6.1 111da=7.0 111db=8.0 111e0- 111e1=7.0 111f5- 11200=7.0 11212- 11213=7.0
    1123e=9.0 1123f=15.0 11242- 11280=8.0 11287- 11288=8.0 11289- 1128a=8.0 1128e- 1128f=8.0 1129e-
    1129f=8.0 112aa- 112b0=7.0 112eb- 112f0=7.0 112fa- 11300=8.0 11301=7.0 11304- 11305=7.0 1130d-
    1130f=7.0 11311- 11313=7.0 11329- 1132a=7.0 11331- 11332=7.0 11334- 11335=7.0 1133a- 1133b=11.0
    1133c=7.0 11345- 11347=7.0 11349- 1134b=7.0 1134e- 11350=8.0 11351- 11357=7.0 11358- 1135d=7.0
    11364- 11366=7.0 1136d- 11370=7.0 11375- 11380=16.0 1138a- 1138b=16.0 1138c- 1138e=16.0 1138f-
    11390=16.0 113b6- 113b7=16.0 113c1- 113c2=16.0 113c3- 113c5=16.0 113c6- 113c7=16.0 113cb-
    113cc=16.0 113d6- 113d7=16.0 113d9- 113e1=16.0 113e3- 11400=9.0 1145a=13.0 1145b=9.0 1145c-
    1145d=9.0 1145e=11.0 1145f=12.0 11460=13.0 11462- 11480=7.0 114c8- 114d0=7.0 114da- 11580=7.0
    115b6- 115b8=7.0 115ca=8.0 115de- 11600=7.0 11645- 11650=7.0 1165a- 11660=9.0 1166d- 11680=6.1
    116b8=12.0 116b9=14.0 116ba- 116c0=6.1 116ca- 116d0=16.0 116e4- 11700=8.0 1171a=11.0 1171b-
    1171d=8.0 1172c- 11730=8.0 11740=14.0 11747- 11800=11.0 1183c- 118a0=7.0 118f3- 118ff=7.0
    11900=13.0 11907- 11909=13.0 1190a- 1190c=13.0 11914- 11915=13.0 11917- 11918=13.0 11936-
    11937=13.0 11939- 1193b=13.0 11947- 11950=13.0 1195a- 119a0=12.0 119a8- 119aa=12.0 119d8-
    119da=12.0 119e5- 11a00=10.0 11a48- 11a50=10.0 11a84=12.0 11a86=10.0 11a9d=11.0 11a9e=10.0
    11aa3- 11ab0=14.0 11ac0=7.0 11af9- 11b00=15.0 11b0a- 11b60=17.0 11b68- 11bc0=16.0 11be2-
    11bf0=16.0 11bfa- 11c00=9.0 11c09- 11c0a=9.0 11c37- 11c38=9.0 11c46- 11c50=9.0 11c6d- 11c70=9.0
    11c90- 11c92=9.0 11ca8- 11ca9=9.0 11cb7- 11d00=10.0 11d07- 11d08=10.0 11d0a- 11d0b=10.0 11d37-
    11d3a=10.0 11d3b- 11d3c=10.0 11d3e- 11d3f=10.0 11d48- 11d50=10.0 11d5a- 11d60=11.0 11d66-
    11d67=11.0 11d69- 11d6a=11.0 11d8f- 11d90=11.0 11d92- 11d93=11.0 11d99- 11da0=11.0 11daa-
    11db0=17.0 11ddc- 11de0=17.0 11dea- 11ee0=11.0 11ef9- 11f00=15.0 11f11- 11f12=15.0 11f3b-
    11f3e=15.0 11f5a=16.0 11f5b- 11fb0=13.0 11fb1- 11fc0=12.0 11ff2- 11fff=12.0 12000=5.0 1236f=7.0
    12399=8.0 1239a- 12400=5.0 12463=7.0 1246f- 12470=5.0 12474=7.0 12475- 12480=8.0 12544-
    12f90=14.0 12ff3- 13000=5.2 1342f=15.0 13430=12.0 13439=15.0 13456- 13460=16.0 143fb- 14400=8.0
    14647- 16100=16.0 1613a- 16800=6.0 16a39- 16a40=7.0 16a5f- 16a60=7.0 16a6a- 16a6e=7.0
    16a70=14.0 16abf- 16ac0=14.0 16aca- 16ad0=7.0 16aee- 16af0=7.0 16af6- 16b00=7.0 16b46-
    16b50=7.0 16b5a- 16b5b=7.0 16b62- 16b63=7.0 16b78- 16b7d=7.0 16b90- 16d40=16.0 16d7a-
    16e40=11.0 16e9b- 16ea0=17.0 16eb9- 16ebb=17.0 16ed4- 16f00=6.1 16f45=12.0 16f4b- 16f4f=12.0
    16f50=6.1 16f7f=12.0 16f88- 16f8f=6.1 16fa0- 16fe0=9.0 16fe1=10.0 16fe2=12.0 16fe4=13.0 16fe5-
    16ff0=13.0 16ff2=17.0 16ff7- 17000=9.0 187ed=11.0 187f2=12.0 187f8=17.0 18800=9.0 18af3=13.0
    18cd6- 18cff=16.0 18d00=13.0 18d09=17.0 18d1f- 18d80=17.0 18df3- 1aff0=14.0 1aff4- 1aff5=14.0
    1affc- 1affd=14.0 1afff- 1b000=6.0 1b002=10.0 1b11f=14.0 1b123- 1b132=15.0 1b133- 1b150=12.0
    1b153- 1b155=15.0 1b156- 1b164=12.0 1b168- 1b170=10.0 1b2fc- 1bc00=7.0 1bc6b- 1bc70=7.0 1bc7d-
    1bc80=7.0 1bc89- 1bc90=7.0 1bc9a- 1bc9c=7.0 1bca4- 1cc00=16.0 1ccfa=17.0 1ccfd- 1cd00=16.0
    1ceb4- 1ceba=17.0 1ced1- 1cee0=17.0 1cef1- 1cf00=14.0 1cf2e- 1cf30=14.0 1cf47- 1cf50=14.0
    1cfc4- 1d000=3.1 1d0f6- 1d100=3.1 1d127- 1d129=5.1 1d12a=3.1 1d1de=8.0 1d1e9=14.0 1d1eb-
    1d200=4.1 1d246- 1d2c0=15.0 1d2d4- 1d2e0=11.0 1d2f4- 1d300=4.0 1d357- 1d360=5.0 1d372=11.0
    1d379- 1d400=3.1 1d455- 1d456=3.1 1d49d- 1d49e=3.1 1d4a0- 1d4a2=3.1 1d4a3- 1d4a5=3.1 1d4a7-
    1d4a9=3.1 1d4ad- 1d4ae=3.1 1d4ba- 1d4bb=3.1 1d4bc- 1d4bd=3.1 1d4c1=4.0 1d4c2=3.1 1d4c4-
    1d4c5=3.1 1d506- 1d507=3.1 1d50b- 1d50d=3.1 1d515- 1d516=3.1 1d51d- 1d51e=3.1 1d53a- 1d53b=3.1
    1d53f- 1d540=3.1 1d545- 1d546=3.1 1d547- 1d54a=3.1 1d551- 1d552=3.1 1d6a4=4.1 1d6a6- 1d6a8=3.1
    1d7ca=5.0 1d7cc- 1d7ce=3.1 1d800=8.0 1da8c- 1da9b=8.0 1daa0- 1daa1=8.0 1dab0- 1df00=14.0 1df1f-
    1df25=15.0 1df2b- 1e000=9.0 1e007- 1e008=9.0 1e019- 1e01b=9.0 1e022- 1e023=9.0 1e025- 1e026=9.0
    1e02b- 1e030=15.0 1e06e- 1e08f=15.0 1e090- 1e100=12.0 1e12d- 1e130=12.0 1e13e- 1e140=12.0
    1e14a- 1e14e=12.0 1e150- 1e290=14.0 1e2af- 1e2c0=12.0 1e2fa- 1e2ff=12.0 1e300- 1e4d0=15.0
    1e4fa- 1e5d0=16.0 1e5fb- 1e5ff=16.0 1e600- 1e6c0=17.0 1e6df- 1e6e0=17.0 1e6f6- 1e6fe=17.0
    1e700- 1e7e0=14.0 1e7e7- 1e7e8=14.0 1e7ec- 1e7ed=14.0 1e7ef- 1e7f0=14.0 1e7ff- 1e800=7.0 1e8c5-
    1e8c7=7.0 1e8d7- 1e900=9.0 1e94b=12.0 1e94c- 1e950=9.0 1e95a- 1e95e=9.0 1e960- 1ec71=11.0
    1ecb5- 1ed01=12.0 1ed3e- 1ee00=6.1 1ee04- 1ee05=6.1 1ee20- 1ee21=6.1 1ee23- 1ee24=6.1 1ee25-
    1ee27=6.1 1ee28- 1ee29=6.1 1ee33- 1ee34=6.1 1ee38- 1ee39=6.1 1ee3a- 1ee3b=6.1 1ee3c- 1ee42=6.1
    1ee43- 1ee47=6.1 1ee48- 1ee49=6.1 1ee4a- 1ee4b=6.1 1ee4c- 1ee4d=6.1 1ee50- 1ee51=6.1 1ee53-
    1ee54=6.1 1ee55- 1ee57=6.1 1ee58- 1ee59=6.1 1ee5a- 1ee5b=6.1 1ee5c- 1ee5d=6.1 1ee5e- 1ee5f=6.1
    1ee60- 1ee61=6.1 1ee63- 1ee64=6.1 1ee65- 1ee67=6.1 1ee6b- 1ee6c=6.1 1ee73- 1ee74=6.1 1ee78-
    1ee79=6.1 1ee7d- 1ee7e=6.1 1ee7f- 1ee80=6.1 1ee8a- 1ee8b=6.1 1ee9c- 1eea1=6.1 1eea4- 1eea5=6.1
    1eeaa- 1eeab=6.1 1eebc- 1eef0=6.1 1eef2- 1f000=5.1 1f02c- 1f030=5.1 1f094- 1f0a0=6.0 1f0af-
    1f0b1=6.0 1f0bf=7.0 1f0c0- 1f0c1=6.0 1f0d0- 1f0d1=6.0 1f0e0=7.0 1f0f6- 1f100=5.2 1f10b=7.0
    1f10d=13.0 1f110=5.2 1f12f=11.0 1f130=6.0 1f131=5.2 1f132=6.0 1f13d=5.2 1f13e=6.0 1f13f=5.2
    1f140=6.0 1f142=5.2 1f143=6.0 1f146=5.2 1f147=6.0 1f14a=5.2 1f14f=6.0 1f157=5.2 1f158=6.0
    1f15f=5.2 1f160=6.0 1f16a=6.1 1f16c=12.0 1f16d=13.0 1f170=6.0 1f179=5.2 1f17a=6.0 1f17b=5.2
    1f17d=6.0 1f17f=5.2 1f180=6.0 1f18a=5.2 1f18e=6.0 1f190=5.2 1f191=6.0 1f19b=9.0 1f1ad=13.0
    1f1ae- 1f1e6=6.0 1f200=5.2 1f201=6.0 1f203- 1f210=5.2 1f232=6.0 1f23b=9.0 1f23c- 1f240=5.2
    1f249- 1f250=6.0 1f252- 1f260=10.0 1f266- 1f300=6.0 1f321=7.0 1f32d=8.0 1f330=6.0 1f336=7.0
    1f337=6.0 1f37d=7.0 1f37e=8.0 1f380=6.0 1f394=7.0 1f3a0=6.0 1f3c5=7.0 1f3c6=6.0 1f3cb=7.0
    1f3cf=8.0 1f3d4=7.0 1f3e0=6.0 1f3f1=7.0 1f3f8=8.0 1f400=6.0 1f43f=7.0 1f440=6.0 1f441=7.0
    1f442=6.0 1f4f8=7.0 1f4f9=6.0 1f4fd=7.0 1f4ff=8.0 1f500=6.0 1f53e=7.0 1f540=6.1 1f544=7.0
    1f54b=8.0 1f550=6.0 1f568=7.0 1f57a=9.0 1f57b=7.0 1f5a4=9.0 1f5a5=7.0 1f5fb=6.0 1f600=6.1
    1f601=6.0 1f611=6.1 1f612=6.0 1f615=6.1 1f616=6.0 1f617=6.1 1f618=6.0 1f619=6.1 1f61a=6.0
    1f61b=6.1 1f61c=6.0 1f61f=6.1 1f620=6.0 1f626=6.1 1f628=6.0 1f62c=6.1 1f62d=6.0 1f62e=6.1
    1f630=6.0 1f634=6.1 1f635=6.0 1f641=7.0 1f643=8.0 1f645=6.0 1f650=7.0 1f680=6.0 1f6c6=7.0
    1f6d0=8.0 1f6d1=9.0 1f6d3=10.0 1f6d5=12.0 1f6d6=13.0 1f6d8=17.0 1f6d9- 1f6dc=15.0 1f6dd=14.0
    1f6e0=7.0 1f6ed- 1f6f0=7.0 1f6f4=9.0 1f6f7=10.0 1f6f9=11.0 1f6fa=12.0 1f6fb=13.0 1f6fd-
    1f700=6.0 1f774=15.0 1f777=17.0 1f77b=15.0 1f780=7.0 1f7d5=11.0 1f7d9=15.0 1f7da- 1f7e0=12.0
    1f7ec- 1f7f0=14.0 1f7f1- 1f800=7.0 1f80c- 1f810=7.0 1f848- 1f850=7.0 1f85a- 1f860=7.0 1f888-
    1f890=7.0 1f8ae- 1f8b0=13.0 1f8b2=16.0 1f8bc- 1f8c0=16.0 1f8c2- 1f8d0=17.0 1f8d9- 1f900=10.0
    1f90c=13.0 1f90d=12.0 1f910=8.0 1f919=9.0 1f91f=10.0 1f920=9.0 1f928=10.0 1f930=9.0 1f931=10.0
    1f933=9.0 1f93f=12.0 1f940=9.0 1f94c=10.0 1f94d=11.0 1f950=9.0 1f95f=10.0 1f96c=11.0 1f971=12.0
    1f972=13.0 1f973=11.0 1f977=13.0 1f979=14.0 1f97a=11.0 1f97b=12.0 1f97c=11.0 1f980=8.0
    1f985=9.0 1f992=10.0 1f998=11.0 1f9a3=13.0 1f9a5=12.0 1f9ab=13.0 1f9ae=12.0 1f9b0=11.0
    1f9ba=12.0 1f9c0=8.0 1f9c1=11.0 1f9c3=12.0 1f9cb=13.0 1f9cc=14.0 1f9cd=12.0 1f9d0=10.0
    1f9e7=11.0 1fa00=12.0 1fa54=17.0 1fa58- 1fa60=11.0 1fa6e- 1fa70=12.0 1fa74=13.0 1fa75=15.0
    1fa78=12.0 1fa7b=14.0 1fa7d- 1fa80=12.0 1fa83=13.0 1fa87=15.0 1fa89=16.0 1fa8a=17.0 1fa8b-
    1fa8e=17.0 1fa8f=16.0 1fa90=12.0 1fa96=13.0 1faa9=14.0 1faad=15.0 1fab0=13.0 1fab7=14.0
    1fabb=15.0 1fabe=16.0 1fabf=15.0 1fac0=13.0 1fac3=14.0 1fac6=16.0 1fac7- 1fac8=17.0 1fac9-
    1facd=17.0 1face=15.0 1fad0=13.0 1fad7=14.0 1fada=15.0 1fadc=16.0 1fadd- 1fadf=16.0 1fae0=14.0
    1fae8=15.0 1fae9=16.0 1faea=17.0 1faeb- 1faef=17.0 1faf0=14.0 1faf7=15.0 1faf9- 1fb00=13.0
    1fb93- 1fb94=13.0 1fbcb=16.0 1fbf0=13.0 1fbfa=17.0 1fbfb- 1fffe=2.0 20000=3.1 2a6d7=13.0
    2a6de=14.0 2a6e0- 2a700=5.2 2b735=14.0 2b739=15.0 2b73a=17.0 2b740=6.0 2b81e- 2b820=8.0
    2cea2=17.0 2ceae- 2ceb0=10.0 2ebe1- 2ebf0=15.1 2ee5e- 2f800=3.1 2fa1e- 2fffe=2.0 30000=13.0
    3134b- 31350=15.0 323b0=17.0 3347a- 3fffe=2.0 40000- 4fffe=2.0 50000- 5fffe=2.0 60000-
    6fffe=2.0 70000- 7fffe=2.0 80000- 8fffe=2.0 90000- 9fffe=2.0 a0000- afffe=2.0 b0000- bfffe=2.0
    c0000- cfffe=2.0 d0000- dfffe=2.0 e0000- e0001=3.1 e0002- e0020=3.1 e0080- e0100=4.0 e01f0-
    efffe=2.0"

def ageTable : Table String :=
  Table.ofText (fun label => String.ofList (label.drop 1)) ageText

/-- The versions of the standard up to 16.0, in order. -/
def versions : List String := [
    "1.1", "2.0", "2.1", "3.0", "3.1", "3.2", "4.0", "4.1", "5.0", "5.1", "5.2", "6.0", "6.1",
    "6.2", "6.3", "7.0", "8.0", "9.0", "10.0", "11.0", "12.0", "12.1", "13.0", "14.0", "15.0",
    "15.1", "16.0"]

/-- The version after those. -/
def latestVersion : String := "17.0"

end Searchlight.Text
